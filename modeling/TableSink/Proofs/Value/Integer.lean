/-
Which values stand for whole numbers.

An integer stands for itself, and a text for the number that it spells. It comes to the same
to write any value and to read its text (`spells_toText_iff`): what the text of another kind
of value is written with, such as the brackets of a list or the point of a double, is not
found in a number.
-/
import TableSink.Proofs.Number.Spelling
import TableSink.Value.Integer
import TableSink.Value.Text

namespace TableSink

open Text Number

theorem Text.mem_ofString {c : Char} {s : String} :
    CodePoint.char c ∈ ofString s ↔ c ∈ s.toList := by
  rw [ofString, ofChars, List.mem_map]
  constructor
  · rintro ⟨_, hc, ⟨⟩⟩
    exact hc
  · exact fun hc => ⟨c, hc, rfl⟩

namespace Value

theorem toInt?_eq_some_iff {v : Value} {n : Int} :
    v.toInt? = some n ↔ v = .int n ∨ ∃ s, v = .text s ∧ Spells s n := by
  cases v with
  | int m => simp [toInt?]
  | text s => simp [toInt?, readInt?_eq_some_iff]
  | _ => simp [toInt?]

/-! ## Marks of other kinds -/

/-- The text has a character that no number is written with. -/
def Marked (s : Text) : Prop :=
  ∃ c, .char c ∈ s ∧ isNumeric c = false

theorem Marked.not_spells {s : Text} (h : Marked s) {n : Int} : ¬Spells s n := by
  obtain ⟨c, hc, hmark⟩ := h
  exact not_spells_of_mem hc hmark

theorem marked_ofString {s : String} (h : ∃ c ∈ s.toList, isNumeric c = false) :
    Marked (ofString s) := by
  obtain ⟨c, hc, hmark⟩ := h
  exact ⟨c, mem_ofString.mpr hc, hmark⟩

/-- What stands in brackets is marked by them. -/
theorem marked_between {first last : String} {s : Text}
    (h : ∃ c ∈ first.toList, isNumeric c = false) : Marked (first ++ s ++ last) := by
  obtain ⟨c, hc, hmark⟩ := marked_ofString h
  exact ⟨c, List.mem_append_left _ (List.mem_append_left _ hc), hmark⟩

theorem marked_tupleLiteral (items : List Text) : Marked (tupleLiteral items) := by
  fun_cases tupleLiteral items with
  | case1 => exact marked_between ⟨'(', by decide⟩
  | case2 => exact marked_between ⟨'(', by decide⟩

theorem marked_setLiteral (members : List Text) : Marked (setLiteral members) := by
  rw [setLiteral]
  split
  · exact marked_ofString ⟨'(', by decide⟩
  · exact marked_between ⟨'\x7b', by decide⟩

theorem point_or_exponent_mem_decimalText (x : Decimal) :
    '.' ∈ (valueStyle.decimalText x).toList ∨ 'e' ∈ (valueStyle.decimalText x).toList := by
  rw [Style.decimalText]
  extract_lets all place digits
  split_ifs
  · simp
  · simp
  · simp
  · simp [Style.exponentText, valueStyle]
  · simp [Style.exponentText, valueStyle]

/-- A double is written with a point or an exponent, or by a word. -/
theorem marked_text_float (x : Float) : Marked (ofString (valueStyle.text x)) := by
  apply marked_ofString
  rw [Style.text]
  cases Double.ofFloat x with
  | nan => exact ⟨'n', by decide⟩
  | infinite negative => exact ⟨'i', by simp, by decide⟩
  | finite negative magnitude =>
    simp only
    split
    · exact ⟨'.', by simp, by decide⟩
    · rcases point_or_exponent_mem_decimalText magnitude.shortest with h | h
      · exact ⟨'.', by simp [h], by decide⟩
      · exact ⟨'e', by simp [h], by decide⟩

/-- Between the parts of a date stand two hyphens. -/
theorem count_hyphen_date (d : Date) : 2 ≤ (ofString d.text).count (.char '-') := by
  have hinjective : Function.Injective CodePoint.char := fun _ _ => CodePoint.char.inj
  rw [ofString, ofChars, List.count_map_of_injective _ _ hinjective, Date.text]
  simp
  omega

theorem marked_text_dateTime (t : DateTime) : Marked (ofString t.text) := by
  refine marked_ofString ⟨':', ?_, by decide⟩
  simp [DateTime.text]

/-- No other value has a text that spells a number. -/
theorem not_spells_toText {v : Value} (hint : ∀ m, v ≠ .int m) (htext : ∀ s, v ≠ .text s)
    {n : Int} : ¬Spells v.toText n := by
  cases v with
  | null => exact (marked_ofString ⟨'N', by decide⟩).not_spells
  | bool b => exact (marked_ofString ⟨'e', by cases b <;> decide⟩).not_spells
  | int m => exact absurd rfl (hint m)
  | float x => exact (marked_text_float x).not_spells
  | text s => exact absurd rfl (htext s)
  | list items => exact (marked_between ⟨'[', by decide⟩).not_spells
  | tuple items => exact (marked_tupleLiteral _).not_spells
  | map rows => exact (marked_between ⟨'\x7b', by decide⟩).not_spells
  | orderedMap rows => exact (marked_between ⟨'(', by decide⟩).not_spells
  | set members => exact (marked_setLiteral _).not_spells
  | inside shape => exact (marked_ofString ⟨'.', by cases shape <;> decide⟩).not_spells
  | date d =>
    intro h
    have hmany : 2 ≤ (Value.date d).toText.count (.char '-') := count_hyphen_date d
    have hone := h.count_hyphen_le
    omega
  | dateTime t => exact (marked_text_dateTime t).not_spells
  | bytes data =>
    exact not_spells_of_mem (c := 'b') List.mem_cons_self (by decide)

/-- A value that can be written stands for the number that its text spells. -/
theorem spells_toText_iff {v : Value} (h : v.isWritable = true) {n : Int} :
    Spells v.toText n ↔ v.toInt? = some n := by
  cases v with
  | int m =>
    have hshort : isLong m = false := by simpa [isWritable] using h
    have hm : Spells (Value.int m).toText m := spells_ofInt hshort
    constructor
    · exact fun hn => congrArg some (hm.unique hn)
    · rintro ⟨⟩
      exact hm
  | text s => exact readInt?_eq_some_iff.symm
  | _ => exact iff_of_false (not_spells_toText (by simp) (by simp)) (by simp [toInt?])

end Value

end TableSink
