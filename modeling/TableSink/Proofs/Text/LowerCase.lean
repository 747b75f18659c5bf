/-
Words in small letters.

A text in capital or small letters is compared with a word by its small form.
Where the word is made of small Latin letters that stand for no other capitals
(`ownSmallLetters`), it is enough to look at the Latin letters of the text
(`lower_eq_iff`): the rules on a final sigma and on the capital I with a dot
never lead to such a word.
-/
import TableSink.Text.LowerCase

namespace TableSink.Text

/-- The small Latin letters that are the small form of no letter but a Latin
one. The small forms of the capital I with a dot and of the Kelvin sign begin
with the two letters left out. -/
def ownSmallLetters : List Char :=
  "abcdefghjlmnopqrstuvwxyz".toList

/-- The run of the Latin capitals. All other capitals come after the first 128
characters. -/
def latinCapitals : CapitalRun where
  first := 0x41
  last := 0x5A
  step := 1
  distance := 32

theorem capitalRuns_eq : capitalRuns = latinCapitals :: capitalRuns.tail := rfl

theorem le_first_of_mem_tail {r : CapitalRun} (hr : r ∈ capitalRuns.tail) : 128 ≤ r.first := by
  have htable : (capitalRuns.tail.all fun r => 128 ≤ r.first) = true := by decide +kernel
  exact of_decide_eq_true (List.all_eq_true.mp htable r hr)

theorem lowerChar_of_lt {c : Char} (h : c.toNat < 128) : lowerChar c = c.toLower := by
  have htail : capitalRuns.tail.find? (fun r => r.holds c.toNat) = none := by
    rw [List.find?_eq_none]
    intro r hr hholds
    have hfirst := le_first_of_mem_tail hr
    simp only [CapitalRun.holds, Bool.and_eq_true, decide_eq_true_eq] at hholds
    omega
  have htable : ∀ n < 128, (if latinCapitals.holds n then latinCapitals.small n else Char.ofNat n) =
      (Char.ofNat n).toLower := by
    decide +kernel
  have hc := htable c.toNat h
  rw [Char.ofNat_toNat] at hc
  rw [← hc, lowerChar, capitalRuns_eq, List.find?_cons]
  cases latinCapitals.holds c.toNat with
  | true => rfl
  | false => simp only [htail, Bool.false_eq_true, if_false]

theorem toLower_of_le {c : Char} (h : 128 ≤ c.toNat) : c.toLower = c := by
  have hval : ¬c.val ≤ 'Z'.val := by
    intro hle
    have hz : c.toNat ≤ 90 := hle
    omega
  exact dif_neg fun hc => hval hc.2

theorem toNat_lt_of_mem_ownSmallLetters {x : Char} (hx : x ∈ ownSmallLetters) :
    0 < x.toNat ∧ x.toNat < 128 := by
  have htable : ownSmallLetters.all (fun x => 0 < x.toNat ∧ x.toNat < 128) = true := by decide
  exact of_decide_eq_true (List.all_eq_true.mp htable x hx)

/-- A number of no character makes the null character. -/
theorem toNat_ofNat_of_pos {n : Nat} (h : 0 < (Char.ofNat n).toNat) : (Char.ofNat n).toNat = n := by
  by_cases hn : n.isValidChar
  · rw [Char.ofNat, dif_pos hn]
    rfl
  · rw [Char.ofNat, dif_neg hn] at h
    exact absurd h (by decide)

/-- Only the first run of capital letters leads to these letters. -/
theorem small_ne {r : CapitalRun} (hr : r ∈ capitalRuns.tail) {n : Nat} (hn : r.holds n = true)
    {x : Char} (hx : x ∈ ownSmallLetters) : r.small n ≠ x := by
  have htable : (capitalRuns.tail.all fun r => ownSmallLetters.all fun x =>
      ¬(r.first + r.distance ≤ x.toNat ∧ x.toNat ≤ r.last + r.distance)) = true := by
    decide +kernel
  have hletter := List.all_eq_true.mp (List.all_eq_true.mp htable r hr) x hx
  have hrange : r.first ≤ n ∧ n ≤ r.last := by
    simp only [CapitalRun.holds, Bool.and_eq_true, decide_eq_true_eq] at hn
    exact hn.1
  rintro rfl
  have hpos := (toNat_lt_of_mem_ownSmallLetters hx).1
  have hcode : (r.small n).toNat = ((n : Int) + r.distance).toNat := toNat_ofNat_of_pos hpos
  exact of_decide_eq_true hletter (by omega)

theorem lowerChar_ne {c : Char} (h : 128 ≤ c.toNat) {x : Char} (hx : x ∈ ownSmallLetters) :
    lowerChar c ≠ x := by
  rw [lowerChar]
  split
  next r hfind =>
    have hholds : r.holds c.toNat = true := by simpa using List.find?_some hfind
    have hmem : r ∈ capitalRuns := List.mem_of_find?_eq_some hfind
    rw [capitalRuns_eq, List.mem_cons] at hmem
    rcases hmem with rfl | htail
    · simp only [CapitalRun.holds, Bool.and_eq_true, decide_eq_true_eq] at hholds
      have hlast : latinCapitals.last = 90 := rfl
      omega
    · exact small_ne htail hholds hx
  next =>
    rintro rfl
    have := (toNat_lt_of_mem_ownSmallLetters hx).2
    omega

theorem lowerChar_eq_iff {c x : Char} (hx : x ∈ ownSmallLetters) :
    lowerChar c = x ↔ c.toLower = x := by
  by_cases h : c.toNat < 128
  · rw [lowerChar_of_lt h]
  · have hc : 128 ≤ c.toNat := by omega
    have hne : c ≠ x := by
      rintro rfl
      exact h (toNat_lt_of_mem_ownSmallLetters hx).2
    rw [toLower_of_le hc]
    exact ⟨fun hl => absurd hl (lowerChar_ne hc hx), fun hl => absurd hl hne⟩

/-- The small form of a code point begins with one of these letters where it is
that letter, and then it is the small letter of a Latin one. -/
theorem lowerPoint_eq_cons (after : Bool) (rest : Text) (c : CodePoint) :
    ∃ y t, lowerPoint after rest c = y :: t ∧
      ∀ x ∈ ownSmallLetters,
        (y = .char x ↔ c.map Char.toLower = .char x) ∧ (y = .char x → t = []) := by
  have hletter (d : Char) (h : 128 ≤ d.toNat) : ∀ x ∈ ownSmallLetters, d ≠ x := by
    rintro x hx rfl
    have := (toNat_lt_of_mem_ownSmallLetters hx).2
    omega
  cases c with
  | surrogate n => exact ⟨.surrogate n, [], rfl, fun x _ => ⟨Iff.rfl, fun _ => rfl⟩⟩
  | char c =>
    rw [lowerPoint]
    split
    next hdot =>
      subst hdot
      refine ⟨.char 'i', _, rfl, fun x hx => ?_⟩
      have hi : 'i' ≠ x := by
        rintro rfl
        revert hx
        decide
      have hc : dottedCapital ≠ x := hletter _ (by decide) x hx
      have hmap : (CodePoint.char dottedCapital).map Char.toLower = .char dottedCapital := by decide
      simp [hmap, hi, hc]
    next =>
      split
      next hsigma =>
        subst hsigma
        refine ⟨_, [], rfl, fun x hx => ⟨?_, fun _ => rfl⟩⟩
        have hs : smallSigma after rest ≠ x := by
          rw [smallSigma]
          split
          · exact hletter _ (by decide) x hx
          · exact hletter _ (by decide) x hx
        have hc : capitalSigma ≠ x := hletter _ (by decide) x hx
        have hmap : (CodePoint.char capitalSigma).map Char.toLower = .char capitalSigma := by decide
        simp [hmap, hs, hc]
      next =>
        refine ⟨_, [], rfl, fun x hx => ⟨?_, fun _ => rfl⟩⟩
        simpa [CodePoint.map] using lowerChar_eq_iff hx

theorem lowerFrom_eq_iff (after : Bool) (s : Text) {w : List Char}
    (hw : ∀ x ∈ w, x ∈ ownSmallLetters) :
    lowerFrom after s = ofChars w ↔ s.map (·.map Char.toLower) = ofChars w := by
  induction s generalizing after w with
  | nil => rfl
  | cons c s ih =>
    obtain ⟨y, t, hpoint, hy⟩ := lowerPoint_eq_cons after s c
    rw [lowerFrom, hpoint, List.cons_append, List.map_cons]
    cases w with
    | nil => simp [ofChars]
    | cons x w =>
      obtain ⟨hx, hw⟩ := List.forall_mem_cons.mp hw
      obtain ⟨hfirst, hone⟩ := hy x hx
      have hrest := ih (if c.is isInnerMark then after else c.is isCased) hw
      simp only [ofChars, List.map_cons, List.cons.injEq] at hrest ⊢
      rw [← hfirst, ← hrest]
      constructor
      · rintro ⟨hyx, htail⟩
        rw [hone hyx, List.nil_append] at htail
        exact ⟨hyx, htail⟩
      · rintro ⟨hyx, htail⟩
        rw [hone hyx, List.nil_append]
        exact ⟨hyx, htail⟩

/-- A text is in small letters a word of these letters where it is in small Latin
letters. -/
theorem lower_eq_iff (s : Text) {w : List Char} (hw : ∀ x ∈ w, x ∈ ownSmallLetters) :
    lower s = ofChars w ↔ s.map (·.map Char.toLower) = ofChars w :=
  lowerFrom_eq_iff false s hw

end TableSink.Text
