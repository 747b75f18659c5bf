/-
Which texts spell a whole number.

Digits of any script stand in groups with single underscores between them, a sign may stand
before them and blanks around the whole (`Spells`). A text is read as a number exactly where
it spells it (`readInt?_eq_some_iff`), so it spells one number at most; and the decimal text of
a number that is not too long spells this number (`spells_ofInt`).
-/
import Mathlib.Data.List.Count
import Mathlib.Data.List.DropRight
import Mathlib.Data.Nat.Digits.Defs
import TableSink.Value.Writable

namespace TableSink

/-! ## Outer blanks -/

namespace Text

theorem ofChars_chars {s : Text} (h : '\uFFFD' ∉ chars s) : ofChars (chars s) = s := by
  induction s with
  | nil => rfl
  | cons p s ih =>
    rw [chars, List.map_cons, List.mem_cons, not_or] at h
    cases p with
    | char c => exact congrArg (CodePoint.char c :: ·) (ih h.2)
    | surrogate n => exact absurd rfl h.1

/-- A text is what is left of it, with blanks around. -/
theorem exists_append_strip (s : Text) : ∃ left right, s = left ++ strip s ++ right ∧
    isBlankText left = true ∧ isBlankText right = true := by
  let blank (p : CodePoint) : Bool := p.is isBlank
  refine ⟨s.takeWhile blank, (s.dropWhile blank).rtakeWhile blank, ?_, ?_, ?_⟩
  · have hstrip : strip s = (s.dropWhile blank).rdropWhile blank := rfl
    rw [hstrip, List.append_assoc, List.rdropWhile_append_rtakeWhile,
      List.takeWhile_append_dropWhile]
  · exact List.all_takeWhile
  · exact List.all_eq_true.mpr fun _ hm => List.mem_rtakeWhile_imp hm

theorem stripLeft_append {left mid right : Text} (hleft : isBlankText left = true) (hne : mid ≠ [])
    (hmid : ∀ p ∈ mid, p.is isBlank = false) :
    stripLeft (left ++ (mid ++ right)) = mid ++ right := by
  obtain ⟨p, mid, rfl⟩ := List.exists_cons_of_ne_nil hne
  rw [stripLeft, List.dropWhile_append_of_pos (List.all_eq_true.mp hleft), List.cons_append,
    List.dropWhile_cons_of_neg]
  simp [hmid p List.mem_cons_self]

theorem strip_append {left mid right : Text} (hleft : isBlankText left = true)
    (hright : isBlankText right = true) (hne : mid ≠ []) (hmid : ∀ p ∈ mid, p.is isBlank = false) :
    strip (left ++ mid ++ right) = mid := by
  have hback : stripLeft (right.reverse ++ (mid.reverse ++ [])) = mid.reverse ++ [] := by
    refine stripLeft_append ?_ ?_ ?_
    · rw [isBlankText, List.all_reverse]
      exact hright
    · simpa using hne
    · simpa using hmid
  rw [List.append_nil] at hback
  rw [strip, List.append_assoc, stripLeft_append hleft hne hmid, List.reverse_append, hback,
    List.reverse_reverse]

end Text

namespace Number

open Text

/-! ## Digits -/

/-- Digits of any script with the given values, in groups with single underscores between
them. -/
def SpellsDigits (s : List Char) (ds : List Nat) : Prop :=
  ∃ groups : List (List Char), groups ≠ [] ∧ [] ∉ groups ∧ s = ['_'].intercalate groups ∧
    groups.flatten.map digitValue? = ds.map some

/-- The first group starts with a digit. -/
theorem exists_first_of_spellsDigits {s : List Char} {ds : List Nat} (h : SpellsDigits s ds) :
    ∃ c group groups, s = c :: ['_'].intercalate (group :: groups) ∧ [] ∉ groups ∧
      digitValue? c :: (group :: groups).flatten.map digitValue? = ds.map some := by
  obtain ⟨_ | ⟨_ | ⟨c, group⟩, groups⟩, hne, hempty, rfl, hvalues⟩ := h
  · exact absurd rfl hne
  · exact absurd List.mem_cons_self hempty
  · refine ⟨c, group, groups, List.intercalate_cons_cons_left, ?_, hvalues⟩
    exact fun hm => hempty (List.mem_cons_of_mem _ hm)

theorem not_spellsDigits_nil {ds : List Nat} : ¬SpellsDigits [] ds := by
  intro h
  obtain ⟨c, group, groups, hs, -⟩ := exists_first_of_spellsDigits h
  cases hs

/-- After the first digit comes nothing, or the others, or an underscore and the others. -/
theorem spellsDigits_cons_iff {c : Char} {s : List Char} {ds : List Nat} :
    SpellsDigits (c :: s) ds ↔ ∃ d rest, ds = d :: rest ∧ digitValue? c = some d ∧
      (s = [] ∧ rest = [] ∨ SpellsDigits s rest ∨ ∃ s', s = '_' :: s' ∧ SpellsDigits s' rest) := by
  constructor
  · intro h
    obtain ⟨c, group, groups, hs, hempty, hvalues⟩ := exists_first_of_spellsDigits h
    cases hs
    obtain _ | ⟨d, rest⟩ := ds
    · cases hvalues
    · rw [List.map_cons, List.cons.injEq] at hvalues
      obtain ⟨hd, hrest⟩ := hvalues
      refine ⟨d, rest, rfl, hd, ?_⟩
      by_cases hgroup : group = []
      · subst hgroup
        obtain _ | ⟨group, groups⟩ := groups
        · exact .inl ⟨rfl, (List.map_eq_nil_iff.mp hrest.symm)⟩
        · exact .inr (.inr ⟨_, List.intercalate_cons_cons, _, by simp, hempty, rfl, hrest⟩)
      · refine .inr (.inl ⟨group :: groups, by simp, ?_, rfl, hrest⟩)
        rw [List.mem_cons, not_or]
        exact ⟨Ne.symm hgroup, hempty⟩
  · rintro ⟨d, rest, rfl, hd, ⟨rfl, rfl⟩ | ⟨groups, hne, hempty, rfl, hvalues⟩ |
      ⟨_, rfl, groups, hne, hempty, rfl, hvalues⟩⟩
    · exact ⟨[[c]], by simp, by simp, rfl, by simp [hd]⟩
    · obtain ⟨group, groups, rfl⟩ := List.exists_cons_of_ne_nil hne
      rw [List.mem_cons, not_or] at hempty
      refine ⟨(c :: group) :: groups, by simp, by simp [hempty.2],
        List.intercalate_cons_cons_left.symm, ?_⟩
      simpa [hd] using hvalues
    · obtain ⟨group, groups, rfl⟩ := List.exists_cons_of_ne_nil hne
      refine ⟨[c] :: group :: groups, by simp, by simpa using hempty, ?_,
        by simpa [hd] using hvalues⟩
      rw [List.intercalate_cons_cons]
      rfl

theorem digitValue?_underscore : digitValue? '_' = none := by decide

theorem not_spellsDigits_underscore {s : List Char} {ds : List Nat} :
    ¬SpellsDigits ('_' :: s) ds := by
  rw [spellsDigits_cons_iff, digitValue?_underscore]
  rintro ⟨d, rest, -, hd, -⟩
  cases hd

theorem digit_then_eq_some_iff {c : Char} {s : List Char} {ds : List Nat} :
    (do
      let d ← digitValue? c
      let rest ← readDigits? s
      some (d :: rest)) = some ds ↔
      ∃ d rest, ds = d :: rest ∧ digitValue? c = some d ∧ readDigits? s = some rest := by
  constructor
  · intro h
    obtain ⟨d, hd, h⟩ := Option.bind_eq_some_iff.mp h
    obtain ⟨rest, hrest, h⟩ := Option.bind_eq_some_iff.mp h
    cases h
    exact ⟨d, rest, rfl, hd, hrest⟩
  · rintro ⟨d, rest, rfl, hd, hrest⟩
    rw [hd, hrest]
    rfl

theorem readDigits?_eq_some_iff {s : List Char} {ds : List Nat} :
    readDigits? s = some ds ↔ SpellsDigits s ds := by
  fun_induction readDigits? s generalizing ds with
  | case1 => simp [not_spellsDigits_nil]
  | case2 c =>
    rw [spellsDigits_cons_iff]
    simp [not_spellsDigits_nil, and_comm, eq_comm]
  | case3 c rest ih =>
    rw [digit_then_eq_some_iff, spellsDigits_cons_iff]
    simp [not_spellsDigits_underscore, ih]
  | case4 c s hnil hunderscore ih =>
    -- Neither the end nor an underscore comes after the digit.
    have hrest (rest : List Nat) : (s = [] ∧ rest = [] ∨ SpellsDigits s rest ∨
        ∃ s', s = '_' :: s' ∧ SpellsDigits s' rest) ↔ SpellsDigits s rest := by
      constructor
      · rintro (⟨hs, -⟩ | h | ⟨s', hs, -⟩)
        · exact (hnil hs).elim
        · exact h
        · exact (hunderscore s' hs).elim
      · exact fun h => .inr (.inl h)
    rw [digit_then_eq_some_iff, spellsDigits_cons_iff]
    simp only [ih, hrest]

/-- What digits spell is their value by position. -/
theorem ofDigits_eq (ds : List Nat) : ofDigits ds = Nat.ofDigits 10 ds.reverse := by
  induction ds using List.reverseRecOn with
  | nil => rfl
  | append_singleton ds d ih =>
    rw [List.reverse_append, List.reverse_singleton, List.singleton_append, Nat.ofDigits_cons, ← ih,
      ofDigits, ofDigits, List.foldl_append]
    exact Nat.add_comm _ _

/-- Digits are written with digits and underscores. -/
theorem mem_of_spellsDigits {s : List Char} {ds : List Nat} (h : SpellsDigits s ds) {c : Char}
    (hc : c ∈ s) : c = '_' ∨ ∃ d, digitValue? c = some d := by
  obtain ⟨groups, -, -, rfl, hvalues⟩ := h
  have hm : c = '_' ∨ c ∈ groups.flatten := by
    clear hvalues
    induction groups with
    | nil => cases hc
    | cons group groups ih =>
      obtain _ | ⟨next, groups⟩ := groups
      · exact .inr (by simpa using hc)
      · rw [List.intercalate_cons_cons, List.mem_append, List.mem_append, List.mem_singleton] at hc
        rw [List.flatten_cons, List.mem_append]
        rcases hc with (hc | hc) | hc
        · exact .inr (.inl hc)
        · exact .inl hc
        · exact (ih hc).imp_right .inr
  refine hm.imp_right fun hm => ?_
  have hvalue : digitValue? c ∈ ds.map some := hvalues ▸ List.mem_map_of_mem hm
  obtain ⟨d, -, hd⟩ := List.mem_map.mp hvalue
  exact ⟨d, hd.symm⟩

theorem not_mem_of_spellsDigits {s : List Char} {ds : List Nat} (h : SpellsDigits s ds) {c : Char}
    (hunderscore : c ≠ '_') (hvalue : digitValue? c = none) : c ∉ s := by
  intro hc
  rcases mem_of_spellsDigits h hc with hc | ⟨d, hd⟩
  · exact hunderscore hc
  · rw [hvalue] at hd
    cases hd

/-! ## Numbers -/

/-- A sign, or none, and the factor that it stands for. -/
inductive Sign : List Char → Int → Prop
  | none : Sign [] 1
  | plus : Sign ['+'] 1
  | minus : Sign ['-'] (-1)

/-- The text spells the number: by no more than 4300 digits, with a sign before them and blanks
around the whole. -/
def Spells (text : Text) (n : Int) : Prop :=
  ∃ (left right : Text) (sign digits : List Char) (factor : Int) (ds : List Nat),
    text = left ++ ofChars (sign ++ digits) ++ right ∧
    isBlankText left = true ∧ isBlankText right = true ∧ Sign sign factor ∧
    SpellsDigits digits ds ∧ ds.length ≤ 4300 ∧ n = factor * (Nat.ofDigits 10 ds.reverse : Nat)

/-- The digits start with no sign, so the sign is split off as it stands. -/
theorem splitSign_sign {sign digits : List Char} {factor : Int} {ds : List Nat}
    (hsign : Sign sign factor) (hdigits : SpellsDigits digits ds) :
    ∃ negative, splitSign (sign ++ digits) = (negative, digits) ∧
      ∀ n : Int, (if negative then -n else n) = factor * n := by
  cases hsign with
  | minus => exact ⟨true, rfl, by simp⟩
  | plus => exact ⟨false, rfl, by simp⟩
  | none =>
    refine ⟨false, ?_, by simp⟩
    have hminus : '-' ∉ digits := not_mem_of_spellsDigits hdigits (by decide) (by decide)
    have hplus : '+' ∉ digits := not_mem_of_spellsDigits hdigits (by decide) (by decide)
    rw [List.nil_append, splitSign]
    · rintro s rfl
      exact hminus List.mem_cons_self
    · rintro s rfl
      exact hplus List.mem_cons_self

theorem exists_sign {s digits : List Char} {negative : Bool}
    (h : splitSign s = (negative, digits)) : ∃ sign factor, Sign sign factor ∧ s = sign ++ digits ∧
      ∀ n : Int, (if negative then -n else n) = factor * n := by
  revert h
  fun_cases splitSign s with
  | case1 =>
    rintro ⟨⟩
    exact ⟨_, _, .minus, rfl, by simp⟩
  | case2 =>
    rintro ⟨⟩
    exact ⟨_, _, .plus, rfl, by simp⟩
  | case3 =>
    rintro ⟨⟩
    exact ⟨_, _, .none, rfl, by simp⟩

/-- May the character stand in a number, between the blanks? -/
def isPart (c : Char) : Bool :=
  c ∈ ['+', '-', '_'] || (digitValue? c).isSome

theorem not_isBlank_of_digitValue? {c : Char} {d : Nat} (h : digitValue? c = some d) :
    isBlank c = false := by
  have htables : (zeroDigits.all fun z => blankRanges.all fun range =>
      z + 9 < range.1 || range.2 < z) = true := by
    decide
  obtain ⟨z, hz, rfl⟩ := Option.map_eq_some_iff.mp h
  have hc := List.find?_some hz
  have hm := List.all_eq_true.mp htables z (List.mem_of_find?_eq_some hz)
  rw [isBlank, List.any_eq_false]
  intro range hrange
  have hr := List.all_eq_true.mp hm range hrange
  simp only [Bool.and_eq_true, Bool.or_eq_true, decide_eq_true_eq] at hc hr ⊢
  omega

theorem not_isBlank_of_isPart {c : Char} (h : isPart c = true) : isBlank c = false := by
  rw [isPart, Bool.or_eq_true, decide_eq_true_eq, Option.isSome_iff_exists] at h
  rcases h with h | ⟨d, hd⟩
  · simp only [List.mem_cons, List.not_mem_nil, or_false] at h
    rcases h with rfl | rfl | rfl <;> decide
  · exact not_isBlank_of_digitValue? hd

theorem isPart_of_mem {sign digits : List Char} {factor : Int} {ds : List Nat}
    (hsign : Sign sign factor) (hdigits : SpellsDigits digits ds) {c : Char}
    (hc : c ∈ sign ++ digits) : isPart c = true := by
  rcases List.mem_append.mp hc with hc | hc
  · cases hsign with
    | none => cases hc
    | plus =>
      rw [List.mem_singleton.mp hc]
      rfl
    | minus =>
      rw [List.mem_singleton.mp hc]
      rfl
  · rcases mem_of_spellsDigits hdigits hc with rfl | ⟨d, hd⟩
    · rfl
    · simp [isPart, hd]

theorem readInt?_eq_some_iff_of_split {s : Text} {negative : Bool} {digits : List Char} {n : Int}
    (h : splitSign (strip s).chars = (negative, digits)) :
    readInt? s = some n ↔ ∃ ds, SpellsDigits digits ds ∧ ds.length ≤ 4300 ∧
      n = if negative then -((Nat.ofDigits 10 ds.reverse : Nat) : Int)
        else (Nat.ofDigits 10 ds.reverse : Nat) := by
  simp only [readInt?, h, ← readDigits?_eq_some_iff, ← ofDigits_eq]
  cases readDigits? digits with
  | none => simp
  | some ds =>
    have hlimit : digitLimit = 4300 := rfl
    simp [hlimit, eq_comm]

/-- A text is read as a number exactly where it spells it. -/
theorem readInt?_eq_some_iff {s : Text} {n : Int} : readInt? s = some n ↔ Spells s n := by
  constructor
  · intro h
    cases hsplit : splitSign (strip s).chars with
    | mk negative digits =>
      obtain ⟨ds, hdigits, hlength, rfl⟩ := (readInt?_eq_some_iff_of_split hsplit).mp h
      obtain ⟨sign, factor, hsign, hchars, hfactor⟩ := exists_sign hsplit
      obtain ⟨left, right, hs, hleft, hright⟩ := exists_append_strip s
      refine ⟨left, right, sign, digits, factor, ds, ?_, hleft, hright, hsign, hdigits, hlength,
        hfactor _⟩
      -- What is read is made of characters, so it is shown as it is.
      have hshown : '\uFFFD' ∉ (strip s).chars := by
        intro hm
        rw [hchars] at hm
        have hpart := isPart_of_mem hsign hdigits hm
        revert hpart
        decide
      rw [← hchars, ofChars_chars hshown]
      exact hs
  · rintro ⟨left, right, sign, digits, factor, ds, rfl, hleft, hright, hsign, hdigits, hlength, rfl⟩
    obtain ⟨negative, hsplit, hfactor⟩ := splitSign_sign hsign hdigits
    have hne : ofChars (sign ++ digits) ≠ [] := by
      obtain ⟨c, group, groups, rfl, -⟩ := exists_first_of_spellsDigits hdigits
      simp [ofChars]
    have hmid : ∀ p ∈ ofChars (sign ++ digits), p.is isBlank = false := by
      intro p hp
      obtain ⟨c, hc, rfl⟩ := List.mem_map.mp hp
      exact not_isBlank_of_isPart (isPart_of_mem hsign hdigits hc)
    have hmiddle : splitSign (strip (left ++ ofChars (sign ++ digits) ++ right)).chars =
        (negative, digits) := by
      rw [strip_append hleft hright hne hmid, chars_ofChars, hsplit]
    exact (readInt?_eq_some_iff_of_split hmiddle).mpr ⟨ds, hdigits, hlength, (hfactor _).symm⟩

example : readInt? " -1_0٣\n" = some (-103) := by decide

/-- A text spells one number at most. -/
theorem Spells.unique {s : Text} {m n : Int} (hm : Spells s m) (hn : Spells s n) : m = n :=
  Option.some_inj.mp
    ((readInt?_eq_some_iff.mpr hm).symm.trans (readInt?_eq_some_iff.mpr hn))

/-- Blanks around it do not change what a text spells. -/
theorem Spells.append {left s right : Text} {n : Int} (h : Spells s n)
    (hleft : isBlankText left = true) (hright : isBlankText right = true) :
    Spells (left ++ s ++ right) n := by
  obtain ⟨left', right', sign, digits, factor, ds, rfl, hleft', hright', h⟩ := h
  refine ⟨left ++ left', right' ++ right, sign, digits, factor, ds, by simp, ?_, ?_, h⟩
  · rw [isBlankText, List.all_append, Bool.and_eq_true]
    exact ⟨hleft, hleft'⟩
  · rw [isBlankText, List.all_append, Bool.and_eq_true]
    exact ⟨hright', hright⟩

/-! ## What spells no number -/

/-- May the character stand in a text that spells a number? -/
def isNumeric (c : Char) : Bool :=
  isBlank c || isPart c

theorem isNumeric_of_spells {s : Text} {n : Int} (h : Spells s n) {c : Char}
    (hc : .char c ∈ s) : isNumeric c = true := by
  obtain ⟨left, right, sign, digits, factor, ds, rfl, hleft, hright, hsign, hdigits, -⟩ := h
  rw [List.mem_append, List.mem_append] at hc
  rcases hc with (hc | hc) | hc
  · have hblank : isBlank c = true := List.all_eq_true.mp hleft _ hc
    simp [isNumeric, hblank]
  · obtain ⟨c, hc, ⟨⟩⟩ := List.mem_map.mp hc
    simp [isNumeric, isPart_of_mem hsign hdigits hc]
  · have hblank : isBlank c = true := List.all_eq_true.mp hright _ hc
    simp [isNumeric, hblank]

/-- A text with a character of another kind spells no number. -/
theorem not_spells_of_mem {s : Text} {c : Char} (hc : .char c ∈ s) (h : isNumeric c = false)
    {n : Int} : ¬Spells s n := by
  intro hs
  rw [isNumeric_of_spells hs hc] at h
  cases h

theorem count_hyphen_of_isBlankText {s : Text} (h : isBlankText s = true) :
    s.count (.char '-') = 0 := by
  refine List.count_eq_zero.mpr fun hm => ?_
  have hblank := List.all_eq_true.mp h _ hm
  revert hblank
  decide

/-- A text that spells a number has one hyphen at most: the sign. -/
theorem Spells.count_hyphen_le {s : Text} {n : Int} (h : Spells s n) :
    s.count (.char '-') ≤ 1 := by
  obtain ⟨left, right, sign, digits, factor, ds, rfl, hleft, hright, hsign, hdigits, -⟩ := h
  have hdigits : digits.count '-' = 0 :=
    List.count_eq_zero.mpr (not_mem_of_spellsDigits hdigits (by decide) (by decide))
  have hsign : sign.count '-' ≤ 1 := by cases hsign <;> decide
  have hmiddle : (ofChars (sign ++ digits)).count (.char '-') = (sign ++ digits).count '-' :=
    List.count_map_of_injective _ _ (fun _ _ => CodePoint.char.inj) _
  rw [List.count_append, List.count_append, count_hyphen_of_isBlankText hleft,
    count_hyphen_of_isBlankText hright, hmiddle, List.count_append, hdigits]
  omega

/-! ## Numbers as they are written -/

theorem digitValue?_of_isDigit {c : Char} (h : c.isDigit = true) :
    digitValue? c = some (c.toNat - '0'.toNat) := by
  have hzero : zeroDigits.find? (fun z => z ≤ c.toNat && c.toNat < z + 10) = some 0x30 := by
    refine List.find?_cons_of_pos ?_
    have hbounds : 48 ≤ c.toNat ∧ c.toNat ≤ 57 := Char.isDigit_iff_toNat.mp h
    simp only [Bool.and_eq_true, decide_eq_true_eq]
    omega
  rw [digitValue?, hzero]
  rfl

/-- The digits of a number spell it. -/
theorem spellsDigits_toDigits (m : Nat) : ∃ ds, SpellsDigits (Nat.toDigits 10 m) ds ∧
    ds.length = (Nat.toDigits 10 m).length ∧ Nat.ofDigits 10 ds.reverse = m := by
  let value (c : Char) : Nat := c.toNat - '0'.toNat
  have hvalue : (Nat.toDigits 10 m).map digitValue? = ((Nat.toDigits 10 m).map value).map some := by
    rw [List.map_map]
    refine List.map_congr_left fun c hc => ?_
    exact digitValue?_of_isDigit (Nat.isDigit_of_mem_toDigits (by decide) (by decide) hc)
  refine ⟨(Nat.toDigits 10 m).map value, ⟨[Nat.toDigits 10 m], ?_, ?_, ?_, ?_⟩, ?_, ?_⟩
  · exact List.cons_ne_nil _ _
  · exact fun hm => Nat.toDigits_ne_nil (List.mem_singleton.mp hm).symm
  · exact (List.intercalate_singleton).symm
  · rw [List.flatten_singleton]
    exact hvalue
  · exact List.length_map _
  · rw [← ofDigits_eq, ofDigits, List.foldl_map]
    exact Nat.ofDigitChars_ten_toDigits

theorem exists_sign_ofInt (n : Int) : ∃ sign factor, Sign sign factor ∧
    ofInt n = ofChars (sign ++ Nat.toDigits 10 n.natAbs) ∧ n = factor * n.natAbs := by
  cases n with
  | ofNat m =>
    refine ⟨_, _, .none, ?_, (Int.one_mul _).symm⟩
    exact congrArg ofChars Nat.toList_repr
  | negSucc m =>
    refine ⟨_, _, .minus, ?_, ?_⟩
    · have hlist : (toString (Int.negSucc m)).toList = '-' :: (Nat.repr (m + 1)).toList :=
        String.toList_append
      rw [ofInt, ofString, hlist, Nat.toList_repr]
      rfl
    · rw [Int.natAbs_negSucc, Int.neg_one_mul]
      rfl

theorem leastLong_eq : leastLong = 10 ^ digitLimit := by
  unfold leastLong
  -- The power is not to be worked out.
  generalize digitLimit = k
  exact Nat.pow_eq

theorem length_toDigits_le_iff {n : Int} :
    (Nat.toDigits 10 n.natAbs).length ≤ digitLimit ↔ isLong n = false := by
  rw [Nat.length_toDigits_le_iff (by decide) (by decide), isLong, decide_eq_false_iff_not,
    Nat.not_le, leastLong_eq]

/-- The text of a number that is not too long spells it. -/
theorem spells_ofInt {n : Int} (h : isLong n = false) : Spells (ofInt n) n := by
  obtain ⟨sign, factor, hsign, htext, hfactor⟩ := exists_sign_ofInt n
  obtain ⟨ds, hdigits, hlength, hvalue⟩ := spellsDigits_toDigits n.natAbs
  refine ⟨[], [], sign, _, factor, ds, ?_, rfl, rfl, hsign, hdigits, ?_, ?_⟩
  · rw [List.nil_append, List.append_nil]
    exact htext
  · rw [hlength]
    exact length_toDigits_le_iff.mpr h
  · rw [hvalue]
    exact hfactor

end Number

end TableSink
