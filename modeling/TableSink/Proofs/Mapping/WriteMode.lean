/-
Which words name the write mode that replaces rows.

The word is read letter by letter (`capitalLetter`), and that is as good as taking
its capital form: of the letters outside the first 128 characters only the dotless i
and the long s have a capital that is a Latin letter, and the forms of several Latin
letters do not stand in the name of the mode (`upper_eq_iff`).
-/
import TableSink.Mapping.Build
import TableSink.Proofs.Text.LowerCase
import TableSink.Text.UpperCase
import Mathlib.Data.List.Infix

namespace TableSink.Text

/-- The character is one of the first 128, and not the null character. -/
def IsAscii (x : Char) : Prop :=
  0 < x.toNat ∧ x.toNat < 128

instance (x : Char) : Decidable (IsAscii x) :=
  inferInstanceAs (Decidable (_ ∧ _))

/-- The forms of several letters. -/
def spelledOut : List (List Char) :=
  (borrowedCapitals.map fun row => row.2.map Char.ofNat).filter fun form => 1 < form.length

/-! ## Single letters -/

/-- Small letters of other capitals come after the first 128 characters, or are Latin:
one of the later signs has the small form of a Latin letter. -/
theorem small_ge_or_latin {r : CapitalRun} (hr : r ∈ capitalRuns.tail) :
    128 ≤ (r.first : Int) + r.distance ∨
      97 ≤ (r.first : Int) + r.distance ∧ (r.last : Int) + r.distance ≤ 122 := by
  have htable : (capitalRuns.tail.all fun r =>
      128 ≤ (r.first : Int) + r.distance ∨
        97 ≤ (r.first : Int) + r.distance ∧ (r.last : Int) + r.distance ≤ 122) = true := by
    decide +kernel
  exact of_decide_eq_true (List.all_eq_true.mp htable r hr)

theorem latinCapitals_holdsCapital_of_mem_tail {r : CapitalRun} (hr : r ∈ capitalRuns.tail) {n : Nat}
    (hn : n < 128) (h : r.holdsCapital n = true) : latinCapitals.holdsCapital n = true := by
  have hfirst := le_first_of_mem_tail hr
  have hsmall := small_ge_or_latin hr
  simp only [CapitalRun.holdsCapital, CapitalRun.holds, Bool.and_eq_true, decide_eq_true_eq] at h
  have hlatin : 97 ≤ n ∧ n < 123 := by omega
  have htable : ∀ n < 123, 97 ≤ n → latinCapitals.holdsCapital n = true := by decide +kernel
  exact htable n hlatin.2 hlatin.1

theorem upperChar_of_lt {c : Char} (h : c.toNat < 128) : upperChar c = c.toUpper := by
  have htable : ∀ n < 128,
      (if latinCapitals.holdsCapital n then latinCapitals.capital n else Char.ofNat n) =
        (Char.ofNat n).toUpper := by
    decide +kernel
  have hc := htable c.toNat h
  rw [Char.ofNat_toNat] at hc
  rw [← hc, upperChar, capitalRuns_eq, List.find?_cons]
  cases hlatin : latinCapitals.holdsCapital c.toNat with
  | true => rfl
  | false =>
    have htail : capitalRuns.tail.find? (fun r => r.holdsCapital c.toNat) = none := by
      rw [List.find?_eq_none]
      intro r hr hholds
      have hlatin' := latinCapitals_holdsCapital_of_mem_tail hr h hholds
      rw [hlatin] at hlatin'
      cases hlatin'
    simp only [htail, Bool.false_eq_true, if_false]

/-- The capitals of later letters come later too. -/
theorem first_ge_or_last_lt {r : CapitalRun} (hr : r ∈ capitalRuns) :
    128 ≤ r.first ∨ (r.last : Int) + r.distance < 128 := by
  have htable : (capitalRuns.all fun r =>
      128 ≤ r.first ∨ (r.last : Int) + r.distance < 128) = true := by
    decide +kernel
  exact of_decide_eq_true (List.all_eq_true.mp htable r hr)

theorem not_isAscii_upperChar {c : Char} (h : 128 ≤ c.toNat) : ¬IsAscii (upperChar c) := by
  intro hascii
  rw [upperChar] at hascii
  split at hascii
  next r hfind =>
    have hholds : r.holdsCapital c.toNat = true := by simpa using List.find?_some hfind
    have hrange : r.first ≤ ((c.toNat : Int) - r.distance).toNat ∧
        ((c.toNat : Int) - r.distance).toNat ≤ r.last := by
      simp only [CapitalRun.holdsCapital, CapitalRun.holds, Bool.and_eq_true,
        decide_eq_true_eq] at hholds
      exact hholds.1
    have hcode : (r.capital c.toNat).toNat = ((c.toNat : Int) - r.distance).toNat :=
      toNat_ofNat_of_pos hascii.1
    have hlt := hascii.2
    have hrun := first_ge_or_last_lt (List.mem_of_find?_eq_some hfind)
    omega
  next => exact absurd hascii.2 (Nat.not_lt.mpr h)

theorem toUpper_of_le {c : Char} (h : 128 ≤ c.toNat) : c.toUpper = c := by
  have hval : ¬c.val ≤ 'z'.val := by
    intro hle
    have hz : c.toNat ≤ 122 := hle
    omega
  exact dif_neg fun hc => hval hc.2

theorem capitalLetter_of_lt {c : Char} (h : c.toNat < 128) : capitalLetter c = c.toUpper := by
  have hi : c ≠ 'ı' := by
    rintro rfl
    exact absurd h (by decide)
  have hs : c ≠ 'ſ' := by
    rintro rfl
    exact absurd h (by decide)
  rw [capitalLetter, if_neg hi, if_neg hs]

theorem capitalLetter_of_ge {c : Char} (h : 128 ≤ c.toNat) (hi : c ≠ 'ı') (hs : c ≠ 'ſ') :
    capitalLetter c = c := by
  rw [capitalLetter, if_neg hi, if_neg hs, toUpper_of_le h]

/-! ## Forms -/

/-- How the capital form of a character goes with its capital letter: they are the
same, or neither is a Latin letter, or the form is one of several letters. -/
inductive UpperForm (c : Char) : Prop
  | letter : upperPoint (.char c) = [.char (capitalLetter c)] → UpperForm c
  | foreign {y : Char} : upperPoint (.char c) = [.char y] → ¬IsAscii y →
      ¬IsAscii (capitalLetter c) → UpperForm c
  | spelledOut {form : List Char} : upperPoint (.char c) = ofChars form → form ∈ spelledOut →
      ¬IsAscii (capitalLetter c) → UpperForm c

theorem mem_spelledOut {n : Nat} {form : List Nat} (h : (n, form) ∈ borrowedCapitals)
    (hlength : 1 < form.length) : form.map Char.ofNat ∈ spelledOut := by
  refine List.mem_filter.mpr ⟨List.mem_map.mpr ⟨(n, form), h, rfl⟩, ?_⟩
  rw [List.length_map]
  exact decide_eq_true hlength

theorem borrowed_cases {n : Nat} {form : List Nat} (h : (n, form) ∈ borrowedCapitals) :
    form.map Char.ofNat = [capitalLetter (Char.ofNat n)] ∨
    ¬IsAscii (capitalLetter (Char.ofNat n)) ∧
      (1 < form.length ∨ ∃ m ∈ form, form = [m] ∧ ¬IsAscii (Char.ofNat m)) := by
  have htable : (borrowedCapitals.all fun (n, form) =>
      form.map Char.ofNat = [capitalLetter (Char.ofNat n)] ∨
      ¬IsAscii (capitalLetter (Char.ofNat n)) ∧
        (1 < form.length ∨ ∃ m ∈ form, form = [m] ∧ ¬IsAscii (Char.ofNat m))) = true := by
    decide +kernel
  exact of_decide_eq_true (List.all_eq_true.mp htable (n, form) h)

theorem upperForm (c : Char) : UpperForm c := by
  cases hborrowed : borrowedCapitals.lookup c.toNat with
  | some form =>
    have hform : upperPoint (.char c) = ofChars (form.map Char.ofNat) := by
      simp only [upperPoint, hborrowed]
    obtain ⟨before, after, hsplit, -⟩ := List.lookup_eq_some_iff.mp hborrowed
    have hmem : (c.toNat, form) ∈ borrowedCapitals := by simp [hsplit]
    have hcases := borrowed_cases hmem
    rw [Char.ofNat_toNat] at hcases
    rcases hcases with hletter | ⟨hforeign, hlength | ⟨m, -, rfl, hm⟩⟩
    · rw [hletter] at hform
      exact .letter hform
    · exact .spelledOut hform (mem_spelledOut hmem hlength) hforeign
    · exact .foreign hform hm hforeign
  | none =>
    have hform : upperPoint (.char c) = [.char (upperChar c)] := by
      simp only [upperPoint, hborrowed]
    by_cases hlt : c.toNat < 128
    · rw [upperChar_of_lt hlt, ← capitalLetter_of_lt hlt] at hform
      exact .letter hform
    · have hge : 128 ≤ c.toNat := Nat.le_of_not_lt hlt
      have hi : c ≠ 'ı' := by
        rintro rfl
        exact absurd hborrowed (by decide)
      have hs : c ≠ 'ſ' := by
        rintro rfl
        exact absurd hborrowed (by decide)
      refine .foreign hform (not_isAscii_upperChar hge) ?_
      rw [capitalLetter_of_ge hge hi hs]
      exact fun hascii => hlt hascii.2

theorem upperPoint_ne_nil (c : CodePoint) : upperPoint c ≠ [] := by
  cases c with
  | surrogate n => simp [upperPoint]
  | char c =>
    cases upperForm c with
    | letter hform => simp [hform]
    | foreign hform => simp [hform]
    | @spelledOut form hform hmem =>
      have hlength : 1 < form.length := of_decide_eq_true (List.mem_filter.mp hmem).2
      rw [hform]
      rintro hnil
      rw [List.map_eq_nil_iff.mp hnil] at hlength
      exact absurd hlength (by decide)

/-! ## Words -/

/-- A form that begins with a Latin letter is that letter, unless it is one of
several letters. -/
theorem upperPoint_append_eq_iff {c : CodePoint} {t : Text} {x : Char} {w : List Char}
    (hx : IsAscii x) (hw : ∀ form ∈ spelledOut, ¬form <+: x :: w) :
    upperPoint c ++ t = ofChars (x :: w) ↔ c.map capitalLetter = .char x ∧ t = ofChars w := by
  cases c with
  | surrogate n => simp [upperPoint, ofChars, CodePoint.map]
  | char c =>
    cases upperForm c with
    | letter hform => simp [hform, ofChars, CodePoint.map]
    | @foreign y hform hy hc =>
      have hyx : y ≠ x := by
        rintro rfl
        exact hy hx
      have hcx : capitalLetter c ≠ x := by
        rintro rfl
        exact hc hx
      simp [hform, ofChars, CodePoint.map, hyx, hcx]
    | @spelledOut form hform hmem hc =>
      have hcx : capitalLetter c ≠ x := by
        rintro rfl
        exact hc hx
      have hne : upperPoint (.char c) ++ t ≠ ofChars (x :: w) := by
        intro heq
        refine hw form hmem ?_
        rw [hform] at heq
        have hprefix : ofChars form <+: ofChars (x :: w) := ⟨t, heq⟩
        exact (List.prefix_map_iff_of_injective fun a b h => CodePoint.char.inj h).mp hprefix
      simp [hne, hcx, CodePoint.map]

/-- A text is in capital letters a word of Latin letters, in which no form of several
letters stands, where its letters are one by one the letters of the word. -/
theorem upper_eq_iff (s : Text) {w : List Char} (hascii : ∀ x ∈ w, IsAscii x)
    (hw : ∀ form ∈ spelledOut, ¬form <:+: w) :
    upper s = ofChars w ↔ s.map (·.map capitalLetter) = ofChars w := by
  induction s generalizing w with
  | nil => rfl
  | cons c s ih =>
    rw [upper, List.flatMap_cons, List.map_cons]
    cases w with
    | nil => simp [upperPoint_ne_nil, ofChars]
    | cons x w =>
      have hx : IsAscii x := hascii x List.mem_cons_self
      have hprefix : ∀ form ∈ spelledOut, ¬form <+: x :: w :=
        fun form hform h => hw form hform h.isInfix
      have hrest : upper s = ofChars w ↔ s.map (·.map capitalLetter) = ofChars w := by
        refine ih (fun y hy => hascii y (List.mem_cons_of_mem x hy)) fun form hform h => ?_
        exact hw form hform (h.trans (List.suffix_cons x w).isInfix)
      rw [upperPoint_append_eq_iff hx hprefix, ← upper, hrest]
      simp [ofChars]

end TableSink.Text

namespace TableSink

/-- A word names the mode that writes over rows where its capital form does. -/
theorem WriteMode.ofWord_eq_upsert_iff (word : Text) :
    ofWord word = .upsert ↔ Text.upper word = "UPSERT" := by
  have hletters : ("UPSERT".toList.all fun x => Text.IsAscii x) = true := by decide
  have hascii : ∀ x ∈ "UPSERT".toList, Text.IsAscii x :=
    fun x hx => of_decide_eq_true (List.all_eq_true.mp hletters x hx)
  have hforms : ∀ form ∈ Text.spelledOut, ¬form <:+: "UPSERT".toList := by decide +kernel
  rw [Text.ofString, Text.upper_eq_iff word hascii hforms, ofWord]
  split
  next h => exact iff_of_true rfl h
  next h => exact iff_of_false nofun h

end TableSink
