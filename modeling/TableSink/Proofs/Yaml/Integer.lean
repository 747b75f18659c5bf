/-
Integers in a document.

Digits in base ten, with a sign before them or none, look like an integer and like nothing
else (`ofPlain_digits`), and they stand for what they spell, unless there are too many of
them (`integerValue_digits`). So an integer that is written out in base ten comes back from a
document where it is not too long, and nowhere else (`value_ofInt`).
-/
import TableSink.Proofs.Number.Spelling
import TableSink.Yaml.ScalarValue

namespace TableSink

open Text

/-! ## Digits -/

namespace Number

variable {s sign : List Char} {factor : Int}

/-- A text of Latin digits. -/
structure IsDigits (s : List Char) : Prop where
  ne_nil : s ≠ []
  isDigit : ∀ c ∈ s, c.isDigit = true

theorem isDigits_toDigits (m : Nat) : IsDigits (Nat.toDigits 10 m) where
  ne_nil := Nat.toDigits_ne_nil
  isDigit _ hc := Nat.isDigit_of_mem_toDigits (by decide) (by decide) hc

theorem exists_digitChar {c : Char} (h : c.isDigit = true) : ∃ d < 10, Nat.digitChar d = c := by
  have hbounds : 48 ≤ c.toNat ∧ c.toNat ≤ 57 := Char.isDigit_iff_toNat.mp h
  refine ⟨c.toNat - 48, by omega, Char.toNat_inj.mp ?_⟩
  rw [Nat.toNat_digitChar_of_lt_ten (by omega)]
  omega

namespace IsDigits

/-- What holds of the ten digits holds of each character of the text. -/
theorem forall_mem {p : Char → Prop} (h : IsDigits s) (hp : ∀ d < 10, p (Nat.digitChar d)) :
    ∀ c ∈ s, p c := by
  intro c hc
  obtain ⟨d, hd, rfl⟩ := exists_digitChar (h.isDigit c hc)
  exact hp d hd

theorem exists_cons {p : Char → Prop} (h : IsDigits s) (hp : ∀ d < 10, p (Nat.digitChar d)) :
    ∃ c s', s = c :: s' ∧ p c := by
  obtain ⟨c, s', rfl⟩ := List.exists_cons_of_ne_nil h.ne_nil
  exact ⟨c, s', rfl, h.forall_mem hp c List.mem_cons_self⟩

theorem exists_cons_ne_sign (h : IsDigits s) : ∃ c s', s = c :: s' ∧ c ≠ '+' ∧ c ≠ '-' :=
  h.exists_cons (by decide)

/-- With a sign before the digits, it has to hold of the two signs too. -/
theorem forall_mem_sign {p : Char → Prop} (h : IsDigits s) (hsign : Sign sign factor)
    (hp : ∀ d < 10, p (Nat.digitChar d)) (hplus : p '+') (hminus : p '-') :
    ∀ c ∈ sign ++ s, p c := by
  intro c hc
  rcases List.mem_append.mp hc with hc | hc
  · cases hsign with
    | none => cases hc
    | plus => exact List.mem_singleton.mp hc ▸ hplus
    | minus => exact List.mem_singleton.mp hc ▸ hminus
  · exact h.forall_mem hp c hc

/-! ## Reading them in base ten -/

theorem map_latinForm (h : IsDigits s) : s.map latinForm = s := by
  have hform : ∀ c ∈ s, latinForm c = id c := h.forall_mem (by decide)
  rw [List.map_congr_left hform, List.map_id]

theorem dropWhile_isMargin (h : IsDigits s) : s.dropWhile isMargin = s := by
  obtain ⟨c, s, rfl, hc⟩ := h.exists_cons (p := fun c => ¬isMargin c = true) (by decide)
  exact List.dropWhile_cons_of_neg hc

theorem splitSign_eq (h : IsDigits s) : splitSign s = (false, s) := by
  obtain ⟨c, s, rfl, hplus, hminus⟩ := h.exists_cons_ne_sign
  unfold splitSign
  split
  next heq => cases heq; exact absurd rfl hminus
  next heq => cases heq; exact absurd rfl hplus
  · rfl

/-- Base ten has no mark. -/
theorem dropBaseMark_ten (s : List Char) : dropBaseMark 10 s = s := by
  have hmark : baseMark? 10 = none := rfl
  unfold dropBaseMark
  split
  · rw [hmark, if_neg nofun]
  · rfl

theorem separates_of_not_mem (h : '_' ∉ s) : separates s = true := by
  induction s with
  | nil => rfl
  | cons c s ih =>
    rw [List.mem_cons, not_or] at h
    unfold separates
    split
    · rfl
    next heq => cases heq; exact absurd rfl h.1
    next heq => cases heq; exact absurd rfl h.1
    next heq => cases heq; exact ih h.2

theorem readBaseDigits_ten (h : IsDigits s) : readBaseDigits 10 s =
    if digitLimit < s.length then .error (.tooLong s.length)
    else .ok (Nat.ofDigitChars 10 s 0, []) := by
  have hvalue : ∀ c ∈ s, baseDigit? 10 c = (some ∘ fun c => c.toNat - '0'.toNat) c :=
    h.forall_mem (by decide)
  have hvalues : s.filterMap (baseDigit? 10) = s.map fun c => c.toNat - '0'.toNat := by
    rw [List.filterMap_congr hvalue, List.filterMap_eq_map]
  have hpart : ∀ c ∈ s, (c == '_' || (baseDigit? 10 c).isSome) = true := by
    intro c hc
    rw [hvalue c hc]
    exact Bool.or_true _
  have hunderscore : '_' ∉ s :=
    fun hm => h.forall_mem (p := fun c => c ≠ '_') (by decide) _ hm rfl
  have hhead : (s.head? == some '_') = false := by
    rw [beq_eq_false_iff_ne]
    exact fun heq => hunderscore (List.mem_of_head? heq)
  have hsum : (s.map fun c => c.toNat - '0'.toNat).foldl (fun n d => n * 10 + d) 0 =
      Nat.ofDigitChars 10 s 0 := by
    rw [List.foldl_map]
    simp only [Nat.mul_comm _ 10]
    rfl
  unfold readBaseDigits
  simp only [List.takeWhile_eq_self_iff.mpr hpart, List.dropWhile_eq_nil_iff.mpr hpart, hvalues,
    List.isEmpty_eq_false_iff.mpr h.ne_nil, hhead, separates_of_not_mem hunderscore, hsum,
    List.length_map, true_and]
  rfl

theorem readInteger_ten (h : IsDigits s) : readInteger 10 s =
    if digitLimit < s.length then .error (.tooLong s.length)
    else .ok (Nat.ofDigitChars 10 s 0) := by
  unfold readInteger
  rw [h.map_latinForm, h.dropWhile_isMargin, h.splitSign_eq]
  simp only [dropBaseMark_ten, h.readBaseDigits_ten]
  by_cases hlong : digitLimit < s.length
  · rw [if_pos hlong, if_pos hlong]
  · rw [if_neg hlong, if_neg hlong]
    rfl

end IsDigits

end Number

/-! ## Looks -/

namespace Yaml.ScalarKind

open Number

variable {s sign : List Char} {factor : Int}

theorem dropSign_sign (hsign : Sign sign factor) (h : IsDigits s) : dropSign (sign ++ s) = s := by
  cases hsign with
  | plus => rfl
  | minus => rfl
  | none =>
    obtain ⟨c, s, rfl, hplus, hminus⟩ := h.exists_cons_ne_sign
    rw [List.nil_append]
    unfold dropSign
    split
    next heq => cases heq; exact absurd rfl hminus
    next heq => cases heq; exact absurd rfl hplus
    · rfl

/-- The words that stand for something, the doubles among them. -/
def words : List String :=
  truthWords .v12 ++ nullWords ++ ["<<", "=", ".nan", ".NaN", ".NAN", ".inf", ".Inf", ".INF"]

/-- No character of a number stands in a word. -/
theorem ne_word (hsign : Sign sign factor) (h : IsDigits s) {word : String} (hm : word ∈ words) :
    sign ++ s ≠ word.toList := by
  have hdisjoint : ∀ c ∈ sign ++ s, ∀ w ∈ words, c ∉ w.toList :=
    h.forall_mem_sign hsign (by decide) (by decide) (by decide)
  obtain ⟨c, hc⟩ :=
    List.exists_mem_of_ne_nil _ (List.append_ne_nil_of_right_ne_nil sign h.ne_nil)
  intro heq
  exact hdisjoint c hc word hm (heq ▸ hc)

theorem looksFraction_digits (h : IsDigits s) (leadingPoint : Bool) :
    looksFraction leadingPoint s = false := by
  have hpart : ∀ c ∈ s, isPart c = true := h.forall_mem (by decide)
  unfold looksFraction
  simp only [List.dropWhile_eq_nil_iff.mpr hpart, isExponent, Bool.and_false]

theorem looksFloat_digits (hsign : Sign sign factor) (h : IsDigits s) :
    looksFloat .v12 (sign ++ s) = false := by
  have hnan : sign ++ s ∉ [".nan".toList, ".NaN".toList, ".NAN".toList] := by
    simp only [List.mem_cons, List.not_mem_nil, or_false, not_or]
    exact ⟨ne_word hsign h (by decide), ne_word hsign h (by decide), ne_word hsign h (by decide)⟩
  have hinf : s ∉ [".inf".toList, ".Inf".toList, ".INF".toList] := by
    simp only [List.mem_cons, List.not_mem_nil, or_false, not_or]
    exact ⟨ne_word .none h (by decide), ne_word .none h (by decide), ne_word .none h (by decide)⟩
  unfold looksFloat
  simp only [if_neg hnan, dropSign_sign hsign h, if_neg hinf, looksFraction_digits h]

theorem looksInt_digits (hsign : Sign sign factor) (h : IsDigits s) :
    looksInt .v12 (sign ++ s) = true := by
  have hmark : ∀ c ∈ s, c ∉ ['b', 'x', 'o'] := h.forall_mem (by decide)
  have hparts : ∀ c ∈ s, (c.isDigit || c == '_') = true := h.forall_mem (by decide)
  have hrun : isRun Char.isDigit s = true := by
    rw [isRun, List.isEmpty_eq_false_iff.mpr h.ne_nil, List.all_eq_true.mpr hparts]
    rfl
  unfold looksInt
  rw [dropSign_sign hsign h]
  split
  next => exact absurd (by simp) (hmark 'b' (by simp))
  next => exact absurd (by simp) (hmark 'x' (by simp))
  next => exact absurd (by simp) (hmark 'o' (by simp))
  next => exact hrun
  next heq => cases heq

/-- A number in base ten looks like an integer. -/
theorem ofPlain_digits (hsign : Sign sign factor) (h : IsDigits s) :
    ofPlain .v12 (ofChars (sign ++ s)) = .int := by
  obtain ⟨c, s', hs⟩ :=
    List.exists_cons_of_ne_nil (List.append_ne_nil_of_right_ne_nil sign h.ne_nil)
  have hne : ofChars (sign ++ s) ≠ [] := by
    rw [hs]
    exact List.cons_ne_nil _ _
  have hbreak : Timestamp.dropBreak (sign ++ s) = sign ++ s := by
    have hchars : ∀ c ∈ sign ++ s, c ≠ '\n' :=
      h.forall_mem_sign hsign (by decide) (by decide) (by decide)
    exact if_neg fun hlast => hchars _ (List.mem_of_getLast? hlast) rfl
  have hfirst : ((sign ++ s).headD 'x').isDigit || (sign ++ s).headD 'x' == '-' ||
      (sign ++ s).headD 'x' == '+' := by
    have hchars : ∀ c ∈ sign ++ s, (c.isDigit || c == '-' || c == '+') = true :=
      h.forall_mem_sign hsign (by decide) (by decide) (by decide)
    rw [hs] at hchars ⊢
    exact hchars c List.mem_cons_self
  have hword : ∀ word ∈ words, String.ofList (sign ++ s) ≠ word := by
    rintro word hm rfl
    exact ne_word hsign h hm String.toList_ofList.symm
  have hbool : String.ofList (sign ++ s) ∉ truthWords .v12 :=
    fun hm => hword _ (List.mem_append_left _ (List.mem_append_left _ hm)) rfl
  have hnull : String.ofList (sign ++ s) ∉ nullWords :=
    fun hm => hword _ (List.mem_append_left _ (List.mem_append_right _ hm)) rfl
  rw [ofPlain, if_neg hne, chars_ofChars, hbreak]
  unfold ofLooks
  simp only [if_neg hbool, if_neg hnull, if_neg (hword "<<" (by decide)),
    if_neg (hword "=" (by decide)), looksFloat_digits hsign h, looksInt_digits hsign h, hfirst]
  rfl

/-! ## Values -/

theorem dropUnderscores_digits (hsign : Sign sign factor) (h : IsDigits s) :
    dropUnderscores (ofChars (sign ++ s)) = ofChars (sign ++ s) := by
  have hchars : ∀ c ∈ sign ++ s, c ≠ '_' :=
    h.forall_mem_sign hsign (by decide) (by decide) (by decide)
  refine List.filter_eq_self.mpr fun p hp => ?_
  obtain ⟨c, hc, rfl⟩ := List.mem_map.mp hp
  exact decide_eq_true fun heq => hchars c hc (CodePoint.char.inj heq)

theorem takeSign_sign (hsign : Sign sign factor) (h : IsDigits s) :
    ∃ negative, takeSign (ofChars (sign ++ s)) = (negative, ofChars s) ∧
      ∀ n : Int, (if negative then -n else n) = factor * n := by
  cases hsign with
  | minus => exact ⟨true, rfl, by simp⟩
  | plus => exact ⟨false, rfl, by simp⟩
  | none =>
    obtain ⟨c, s, rfl, hplus, hminus⟩ := h.exists_cons_ne_sign
    refine ⟨false, ?_, by simp⟩
    rw [List.nil_append]
    unfold takeSign
    split
    next heq => cases heq; exact absurd rfl hminus
    next heq => cases heq; exact absurd rfl hplus
    · rfl

theorem unsignedInteger_digits (h : IsDigits s) :
    unsignedInteger .v12 (ofChars s) = integerIn 10 (ofChars s) := by
  have hmark : ∀ p ∈ ofChars s, p ∉ ([.char 'b', .char 'x', .char 'o'] : List CodePoint) := by
    intro p hp
    obtain ⟨c, hc, rfl⟩ := List.mem_map.mp hp
    exact h.forall_mem (p := fun c => .char c ∉ ([.char 'b', .char 'x', .char 'o'] : Text))
      (by decide) c hc
  generalize ofChars s = text at hmark ⊢
  unfold unsignedInteger
  split
  next => exact absurd (by simp) (hmark (.char 'b') (by simp))
  next => exact absurd (by simp) (hmark (.char 'x') (by simp))
  next => exact absurd (by simp) (hmark (.char 'o') (by simp))
  next => rfl
  next heq => cases heq
  next heq => cases heq
  next heq => cases heq

theorem integerIn_ten (h : IsDigits s) : integerIn 10 (ofChars s) =
    if digitLimit < s.length then .error (.longInteger s.length)
    else .ok (Nat.ofDigitChars 10 s 0) := by
  rw [integerIn, chars_ofChars, h.readInteger_ten]
  by_cases hlong : digitLimit < s.length
  · rw [if_pos hlong, if_pos hlong]
    rfl
  · rw [if_neg hlong, if_neg hlong]
    rfl

theorem integerValue_digits (hsign : Sign sign factor) (h : IsDigits s) :
    integerValue .v12 (ofChars (sign ++ s)) =
      if digitLimit < s.length then .error (.longInteger s.length)
      else .ok (factor * Nat.ofDigitChars 10 s 0) := by
  obtain ⟨negative, htake, hfactor⟩ := takeSign_sign hsign h
  have hne : ofChars (sign ++ s) ≠ [] := by
    intro heq
    exact List.append_ne_nil_of_right_ne_nil sign h.ne_nil (List.map_eq_nil_iff.mp heq)
  unfold integerValue
  rw [dropUnderscores_digits hsign h]
  split
  next heq => exact absurd heq hne
  next =>
    simp only [htake, unsignedInteger_digits h, integerIn_ten h]
    by_cases hlong : digitLimit < s.length
    · rw [if_pos hlong, if_pos hlong]
      rfl
    · rw [if_neg hlong, if_neg hlong, ← hfactor]
      rfl

/-- An integer as it is written stands for itself, unless it is too long to be read. -/
theorem value_ofInt (n : Int) :
    (ofPlain .v12 (ofInt n)).value .v12 (ofInt n) =
      if isLong n then .error (.unfit (.longInteger (Nat.toDigits 10 n.natAbs).length))
      else .ok (.int n) := by
  obtain ⟨sign, factor, hsign, htext, hfactor⟩ := exists_sign_ofInt n
  have hdigits : IsDigits (Nat.toDigits 10 n.natAbs) := isDigits_toDigits n.natAbs
  rw [htext, ofPlain_digits hsign hdigits, value, integerValue_digits hsign hdigits,
    Nat.ofDigitChars_ten_toDigits, ← hfactor]
  cases hlong : isLong n with
  | true =>
    have hlength : digitLimit < (Nat.toDigits 10 n.natAbs).length := by
      rw [← Nat.not_le, length_toDigits_le_iff, hlong]
      nofun
    rw [if_pos hlength, if_pos rfl]
    rfl
  | false =>
    have hlength : ¬digitLimit < (Nat.toDigits 10 n.natAbs).length :=
      Nat.not_lt.mpr (length_toDigits_le_iff.mpr hlong)
    rw [if_neg hlength, if_neg nofun]
    rfl

end Yaml.ScalarKind

end TableSink
