/-
Tokens laid out in a text, with blanks between them.

A token has one spelling, so a text is fixed by its tokens and by the blanks
around them. Between two tokens the blanks may be missing, save between two
bare words, which would read as one. Every text is a layout to its end, or to a
place where no token starts (`exists_layout_append`). The scanner undoes the
layout, whatever its blanks are, and tells of that place
(`Layout.scanFrom_text_append`, `scanFrom_eq_error_iff`), so it accepts no text
that is not a layout (`exists_layout`).
-/
import TableSink.Proofs.Except
import TableSink.Statement.Token
import Mathlib.Data.List.Chain
import Mathlib.Data.List.TakeWhile

namespace TableSink

open Text

namespace Token

/-! ## Spelling -/

/-- Is the token a bare word? -/
def isWord : Token → Bool
  | .word _ => true
  | _ => false

/-- The token as it stands in a text. -/
def spelling : Token → Text
  | .word w => w
  | .quoted n => .char backquote :: (n ++ [.char backquote])
  | .star => [.char '*']
  | .comma => [.char ',']

/-- A token that can stand in a text: a bare word is a run of word characters,
a name in backquotes has no backquote of its own, and neither is empty. -/
def WellFormed : Token → Prop
  | .word w => w ≠ [] ∧ ∀ c ∈ w, c.is isWordChar = true
  | .quoted n => n ≠ [] ∧ .char backquote ∉ n
  | .star => True
  | .comma => True

/-! ## Characters -/

theorem toNat_of_isAlphanum {c : Char} (h : c.isAlphanum = true) :
    48 ≤ c.toNat ∧ c.toNat ≤ 122 := by
  rcases Bool.or_eq_true_iff.mp h with h | h
  · rcases Bool.or_eq_true_iff.mp h with h | h
    · have hc : 65 ≤ c.toNat ∧ c.toNat ≤ 90 := of_decide_eq_true h
      omega
    · obtain ⟨hlo, hhi⟩ := Bool.and_eq_true_iff.mp h
      have hlo : 97 ≤ c.toNat := of_decide_eq_true hlo
      have hhi : c.toNat ≤ 122 := of_decide_eq_true hhi
      omega
  · have hc : 48 ≤ c.toNat ∧ c.toNat ≤ 57 := Char.isDigit_iff_toNat.mp h
    omega

theorem toNat_of_isWordChar {c : Char} (h : isWordChar c = true) :
    33 ≤ c.toNat ∧ c.toNat ≤ 126 := by
  simp only [isWordChar, Bool.or_eq_true, beq_iff_eq] at h
  rcases h with (((h | rfl) | rfl) | rfl) | rfl
  · have := toNat_of_isAlphanum h
    omega
  all_goals decide

theorem toNat_of_isBlank {c : Char} (h : isBlank c = true) : c.toNat ≤ 32 ∨ 127 ≤ c.toNat := by
  simp only [isBlank, blankRanges, List.any_cons, List.any_nil, Bool.or_false, Bool.or_eq_true,
    Bool.and_eq_true, decide_eq_true_eq] at h
  omega

theorem isWordChar_of_isBlank {c : CodePoint} (h : c.is isBlank = true) :
    c.is isWordChar = false := by
  cases c with
  | surrogate n => rfl
  | char c =>
    simp only [CodePoint.is, ← Bool.not_eq_true] at h ⊢
    intro hw
    have := toNat_of_isWordChar hw
    have := toNat_of_isBlank h
    omega

theorem isWordChar_of_toUpper {c : CodePoint} (h : (c.map Char.toUpper).is Char.isUpper = true) :
    c.is isWordChar = true := by
  cases c with
  | surrogate n => cases h
  | char c =>
    have hletter : c.isUpper = true ∨ c.isLower = true := by
      by_cases hc : 'a'.val ≤ c.val ∧ c.val ≤ 'z'.val
      · exact .inr (Bool.and_eq_true_iff.mpr ⟨decide_eq_true hc.1, decide_eq_true hc.2⟩)
      · have hself : c.toUpper = c := dif_neg hc
        simp only [CodePoint.map, CodePoint.is, hself] at h
        exact .inl h
    have halnum : c.isAlphanum = true :=
      Bool.or_eq_true_iff.mpr (.inl (Bool.or_eq_true_iff.mpr hletter))
    simp [CodePoint.is, isWordChar, halnum]

/-! ## What the scanner does at each token -/

theorem closeQuote?_eq_some_iff {s name rest : Text} :
    closeQuote? s = some (name, rest) ↔
      s = name ++ .char backquote :: rest ∧ .char backquote ∉ name := by
  induction s generalizing name with
  | nil => simp [closeQuote?]
  | cons c s ih =>
    by_cases hc : c = .char backquote
    · subst hc
      cases name with
      | nil => simp [closeQuote?]
      | cons n name =>
        simp only [closeQuote?, if_true, Option.some.injEq, Prod.mk.injEq]
        grind
    · cases name with
      | nil => simp [closeQuote?, hc]
      | cons n name =>
        simp only [closeQuote?, hc, if_false, Option.map_eq_some_iff]
        grind

theorem scanFrom_blanks {gap : Text} (h : isBlankText gap = true) (pos : Nat) (s : Text) :
    scanFrom pos (gap ++ s) = scanFrom (pos + gap.length) s := by
  induction gap generalizing pos with
  | nil => rfl
  | cons c gap ih =>
    simp only [isBlankText, List.all_cons, Bool.and_eq_true] at h
    rw [List.cons_append, scanFrom, if_pos h.1, ih h.2, List.length_cons]
    congr 1
    omega

theorem scan_blanks {text : Text} (h : isBlankText text = true) : scan text = .ok [] := by
  have := scanFrom_blanks h 0 []
  rwa [List.append_nil, scanFrom] at this

theorem scanFrom_quoted {name : Text} (h : WellFormed (.quoted name)) (pos : Nat) (s : Text) :
    scanFrom pos (spelling (.quoted name) ++ s) =
      (scanFrom (pos + (spelling (.quoted name)).length) s).map (.quoted name :: ·) := by
  obtain ⟨hne, hb⟩ := h
  obtain ⟨n, name, rfl⟩ := List.exists_cons_of_ne_nil hne
  have hq : closeQuote? (n :: (name ++ .char backquote :: s)) = some (n :: name, s) :=
    closeQuote?_eq_some_iff.mpr ⟨rfl, hb⟩
  simp only [spelling, List.cons_append, List.append_assoc, List.nil_append]
  rw [scanFrom, if_neg (by decide), if_neg (by decide), if_neg (by decide), if_pos rfl]
  split
  · next hn => rw [hq] at hn; cases hn
  · next hn => rw [hq] at hn; cases hn
  · next hn =>
    rw [hq] at hn
    cases hn
    simp [Nat.add_assoc]

theorem scanFrom_word {w s : Text} (h : WellFormed (.word w))
    (hs : ∀ c ∈ s.head?, c.is isWordChar = false) (pos : Nat) :
    scanFrom pos (w ++ s) = (scanFrom (pos + w.length) s).map (.word w :: ·) := by
  obtain ⟨hne, hw⟩ := h
  obtain ⟨c, w, rfl⟩ := List.exists_cons_of_ne_nil hne
  simp only [List.mem_cons, forall_eq_or_imp] at hw
  have hblank : ¬ c.is isBlank = true := fun hb => by
    simp [isWordChar_of_isBlank hb] at hw
  have hne {d : Char} (hd : isWordChar d = false) : c ≠ .char d := fun he => by
    simp [he, CodePoint.is, hd] at hw
  have hstop : s.takeWhile (·.is isWordChar) = [] ∧ s.dropWhile (·.is isWordChar) = s := by
    cases s with
    | nil => exact ⟨rfl, rfl⟩
    | cons d s => simp [hs d rfl]
  rw [List.cons_append, scanFrom, if_neg hblank, if_neg (hne (by decide)),
    if_neg (hne (by decide)), if_neg (hne (by decide)), if_pos hw.1]
  simp only [List.takeWhile_append_of_pos hw.2, List.dropWhile_append_of_pos hw.2, hstop,
    List.append_nil]

/-- At a token the scanner reads that token and no more, where a bare word ends
before a character that would lengthen it. -/
theorem scanFrom_spelling {t : Token} {s : Text} (ht : t.WellFormed)
    (hs : t.isWord = true → ∀ c ∈ s.head?, c.is isWordChar = false) (pos : Nat) :
    scanFrom pos (t.spelling ++ s) = (scanFrom (pos + t.spelling.length) s).map (t :: ·) := by
  cases t with
  | word w => exact scanFrom_word ht (hs rfl) pos
  | quoted name => exact scanFrom_quoted ht pos s
  | star =>
    rw [spelling, List.singleton_append, scanFrom, if_neg (by decide), if_pos rfl]
    rfl
  | comma =>
    rw [spelling, List.singleton_append, scanFrom, if_neg (by decide), if_neg (by decide),
      if_pos rfl]
    rfl

/-! ## Layouts -/

/-- Tokens with the blanks around them. -/
structure Layout where
  /-- What stands before the first token. -/
  lead : Text
  /-- The tokens, each with what stands between it and the next. -/
  pieces : List (Token × Text)

namespace Layout

/-- The tokens of a layout. -/
def tokens (l : Layout) : List Token :=
  l.pieces.map (·.1)

/-- Tokens and gaps in their order. -/
def spread (pieces : List (Token × Text)) : Text :=
  pieces.flatMap fun p => p.1.spelling ++ p.2

/-- The text that is laid out. -/
def text (l : Layout) : Text :=
  l.lead ++ spread l.pieces

/-- The rules of a layout: gaps are blank, tokens can stand in a text, and there
is a blank between two bare words. -/
structure Valid (l : Layout) : Prop where
  lead : isBlankText l.lead = true
  gaps : ∀ p ∈ l.pieces, isBlankText p.2 = true
  tokens : ∀ p ∈ l.pieces, p.1.WellFormed
  apart : l.pieces.IsChain fun p q => p.1.isWord = true → q.1.isWord = true → p.2 ≠ []

/-- The layout with one more token, with no blank before it. -/
def push (t : Token) (l : Layout) : Layout :=
  ⟨[], (t, l.lead) :: l.pieces⟩

@[simp] theorem tokens_push (t : Token) (l : Layout) : (l.push t).tokens = t :: l.tokens := rfl

@[simp] theorem text_push (t : Token) (l : Layout) : (l.push t).text = t.spelling ++ l.text := by
  simp [text, push, spread]

/-- A layout may start with a character of a bare word only through a bare word
with no blank before it. -/
theorem head_text {l : Layout} (hl : l.Valid)
    (h : ∀ p ∈ l.pieces.head?, p.1.isWord = true → l.lead ≠ []) :
    ∀ c ∈ l.text.head?, c.is isWordChar = false := by
  obtain ⟨lead, pieces⟩ := l
  cases lead with
  | cons c lead =>
    have hc := hl.lead
    simp only [isBlankText, List.all_cons, Bool.and_eq_true] at hc
    simpa [text] using isWordChar_of_isBlank hc.1
  | nil =>
    cases pieces with
    | nil => simp [text, spread]
    | cons p pieces =>
      obtain ⟨t, gap⟩ := p
      cases t with
      | word w => simp [isWord] at h
      | quoted _ | star | comma =>
        simp [text, spread, spelling]
        decide

theorem Valid.push {l : Layout} (hl : l.Valid) {t : Token} (ht : t.WellFormed)
    (h : t.isWord = true → ∀ c ∈ l.text.head?, c.is isWordChar = false) :
    (l.push t).Valid where
  lead := rfl
  gaps := by simpa [Layout.push] using ⟨hl.lead, fun t gap hp => hl.gaps (t, gap) hp⟩
  tokens := by simpa [Layout.push] using ⟨ht, fun t gap hp => hl.tokens (t, gap) hp⟩
  apart := by
    refine List.isChain_cons.mpr ⟨fun q hq hw hqw hlead => ?_, hl.apart⟩
    obtain ⟨lead, pieces⟩ := l
    obtain ⟨pieces, rfl⟩ := List.head?_eq_some_iff.mp hq
    obtain ⟨q, gap⟩ := q
    cases q with
    | word w =>
      obtain ⟨hne, hchars⟩ := hl.tokens (.word w, gap) (by simp)
      obtain ⟨c, w, rfl⟩ := List.exists_cons_of_ne_nil hne
      have hc := h hw c (by simp_all [text, spread, spelling])
      rw [hchars c (by simp)] at hc
      cases hc
    | quoted _ | star | comma => simp [isWord] at hqw

/-- More blanks may stand before a layout. -/
theorem Valid.indent {l : Layout} (hl : l.Valid) {gap : Text} (hgap : isBlankText gap = true) :
    Valid ⟨gap ++ l.lead, l.pieces⟩ where
  lead := by
    have := hl.lead
    simp_all [isBlankText]
  gaps := hl.gaps
  tokens := hl.tokens
  apart := hl.apart

theorem Valid.tail {lead gap : Text} {t : Token} {pieces : List (Token × Text)}
    (h : Valid ⟨lead, (t, gap) :: pieces⟩) : Valid ⟨gap, pieces⟩ where
  lead := h.gaps (t, gap) (by simp)
  gaps p hp := h.gaps p (List.mem_cons_of_mem _ hp)
  tokens p hp := h.tokens p (List.mem_cons_of_mem _ hp)
  apart := (List.isChain_cons.mp h.apart).2

/-! ## Scanning -/

/-- Scanning undoes a layout, whatever follows it, unless that would lengthen
its last word. -/
theorem scanFrom_text_append {l : Layout} (hl : l.Valid) {rest : Text}
    (hrest : ∀ c ∈ rest.head?, c.is isWordChar = false) (pos : Nat) :
    scanFrom pos (l.text ++ rest) =
      (scanFrom (pos + l.text.length) rest).map (l.tokens ++ ·) := by
  obtain ⟨lead, pieces⟩ := l
  induction pieces generalizing lead pos with
  | nil =>
    have htext : text ⟨lead, []⟩ = lead := List.append_nil lead
    rw [htext, scanFrom_blanks hl.lead]
    exact (congrFun Except.map_id _).symm
  | cons p pieces ih =>
    obtain ⟨t, gap⟩ := p
    have hstop : t.isWord = true →
        ∀ c ∈ (text ⟨gap, pieces⟩ ++ rest).head?, c.is isWordChar = false := by
      intro hw c hc
      rw [List.head?_append] at hc
      cases hhead : (text ⟨gap, pieces⟩).head? with
      | none =>
        rw [hhead] at hc
        exact hrest c hc
      | some d =>
        rw [hhead] at hc
        cases hc
        exact head_text hl.tail
          (fun q hq hqw => (List.isChain_cons.mp hl.apart).1 q hq hw hqw) c hhead
    have htext : text ⟨lead, (t, gap) :: pieces⟩ = lead ++ (t.spelling ++ text ⟨gap, pieces⟩) := by
      simp [text, spread]
    have ht : t.WellFormed := hl.tokens (t, gap) (by simp)
    rw [htext, List.append_assoc, List.append_assoc, scanFrom_blanks hl.lead,
      scanFrom_spelling ht hstop, ih _ _ hl.tail, Except.map_map]
    simp only [List.length_append, Nat.add_assoc]
    rfl

theorem scan_text {l : Layout} (hl : l.Valid) : scan l.text = .ok l.tokens := by
  have hend : ∀ c ∈ ([] : Text).head?, c.is isWordChar = false := by simp
  have h := scanFrom_text_append hl hend 0
  rw [List.append_nil, scanFrom] at h
  rw [scan, h, Except.map, List.append_nil]

end Layout

/-- A token starts with the character, given what follows it. -/
def Opens (c : CodePoint) (after : Text) : Prop :=
  c.is isWordChar = true ∨ c = '*' ∨ c = ',' ∨ c = backquote ∧ .char backquote ∈ after

/-- A text that starts with no blank and with no token, and how this is told at
the position of its first character. -/
inductive Stuck : Text → (Nat → ScanError) → Prop
  | emptyName {after} : Stuck (backquote :: backquote :: after) .emptyName
  | unexpected {c after} : c.is isBlank = false → ¬Opens c after →
      Stuck (c :: after) (.unexpected c)

theorem closeQuote?_eq_none_iff {s : Text} : closeQuote? s = none ↔ .char backquote ∉ s := by
  induction s with
  | nil => simp [closeQuote?]
  | cons c s ih =>
    by_cases hc : c = .char backquote
    · simp [closeQuote?, hc]
    · have hne : CodePoint.char backquote ≠ c := fun h => hc h.symm
      simp [closeQuote?, hc, hne, ih]

theorem Stuck.head {s : Text} {fault : Nat → ScanError} (h : Stuck s fault) :
    ∀ c ∈ s.head?, c.is isWordChar = false := by
  cases h with
  | emptyName =>
    intro c hc
    cases hc
    decide
  | unexpected _ hopens =>
    intro c hc
    cases hc
    rw [← Bool.not_eq_true]
    exact fun hw => hopens (.inl hw)

theorem Stuck.scanFrom {s : Text} {fault : Nat → ScanError} (h : Stuck s fault) (pos : Nat) :
    scanFrom pos s = .error (fault pos) := by
  cases h with
  | @emptyName after =>
    have hq : closeQuote? (.char backquote :: after) = some ([], after) :=
      closeQuote?_eq_some_iff.mpr ⟨rfl, by simp⟩
    rw [Token.scanFrom, if_neg (by decide), if_neg (by decide), if_neg (by decide), if_pos rfl]
    split
    · next hn => rw [hq] at hn; cases hn
    · rfl
    · next hn => rw [hq] at hn; cases hn
  | @unexpected c after hblank hopens =>
    simp only [Opens, not_or, not_and] at hopens
    obtain ⟨hword, hstar, hcomma, hquote⟩ := hopens
    rw [Token.scanFrom, if_neg (by simp [hblank]), if_neg hstar, if_neg hcomma]
    by_cases hc : c = .char backquote
    · have hq : closeQuote? after = none := closeQuote?_eq_none_iff.mpr (hquote hc)
      rw [if_pos hc]
      split
      · rfl
      · next hn => rw [hq] at hn; cases hn
      · next hn => rw [hq] at hn; cases hn
    · rw [if_neg hc, if_neg hword]

/-- Every text is a layout to its end, or to a place where no token starts. -/
theorem exists_layout_append (pos : Nat) (s : Text) :
    ∃ (l : Layout) (rest : Text), l.Valid ∧ l.text ++ rest = s ∧
      (rest = [] ∨ ∃ fault, Stuck rest fault) := by
  have hempty : (⟨[], []⟩ : Layout).Valid := ⟨rfl, by simp, by simp, .nil⟩
  fun_induction scanFrom pos s with
  | case1 pos => exact ⟨_, [], hempty, rfl, .inl rfl⟩
  | case2 pos c s hc ih =>
    obtain ⟨l, rest, hl, rfl, hrest⟩ := ih
    have hgap : isBlankText [c] = true := by simpa [isBlankText] using hc
    exact ⟨_, rest, hl.indent hgap, rfl, hrest⟩
  | case3 pos s _ ih =>
    obtain ⟨l, rest, hl, rfl, hrest⟩ := ih
    exact ⟨l.push .star, rest, hl.push trivial (by simp [isWord]), by simp [spelling], hrest⟩
  | case4 pos s _ _ ih =>
    obtain ⟨l, rest, hl, rfl, hrest⟩ := ih
    exact ⟨l.push .comma, rest, hl.push trivial (by simp [isWord]), by simp [spelling], hrest⟩
  | case5 pos s hq =>
    have hopens : ¬Opens backquote s := by
      rintro (h | h | h | ⟨-, h⟩)
      · exact absurd h (by decide)
      · exact absurd h (by decide)
      · exact absurd h (by decide)
      · exact closeQuote?_eq_none_iff.mp hq h
    exact ⟨_, _, hempty, rfl, .inr ⟨_, .unexpected (by decide) hopens⟩⟩
  | case6 pos s rest hq =>
    obtain ⟨rfl, -⟩ := closeQuote?_eq_some_iff.mp hq
    exact ⟨_, _, hempty, rfl, .inr ⟨_, .emptyName⟩⟩
  | case7 pos s n name after hq _ _ _ ih =>
    obtain ⟨l, rest, hl, rfl, hrest⟩ := ih
    obtain ⟨rfl, hb⟩ := closeQuote?_eq_some_iff.mp hq
    exact ⟨l.push (.quoted (n :: name)), rest, hl.push ⟨by simp, hb⟩ (by simp [isWord]),
      by simp [spelling], hrest⟩
  | case8 pos c s _ _ _ _ hc word =>
    rename_i ih
    obtain ⟨l, rest, hl, htext, hrest⟩ := ih
    have hw : WellFormed (.word word) :=
      ⟨by simp [word], by simpa [word, hc] using fun d hd => List.mem_takeWhile_imp hd⟩
    -- The word ends where the next character would not lengthen it.
    have hstop : ∀ d ∈ l.text.head?, d.is isWordChar = false := by
      intro d hd
      have hhead := List.head?_dropWhile_not (·.is isWordChar) s
      rw [← htext, List.head?_append, hd] at hhead
      exact hhead
    refine ⟨l.push (.word word), rest, hl.push hw fun _ => hstop, ?_, hrest⟩
    simp [spelling, htext, word]
  | case9 pos c s hblank hstar hcomma hquote hword =>
    have hopens : ¬Opens c s := by
      rintro (h | h | h | ⟨h, -⟩)
      · exact hword h
      · exact hstar h
      · exact hcomma h
      · exact hquote h
    exact ⟨_, _, hempty, rfl, .inr ⟨_, .unexpected (by simpa using hblank) hopens⟩⟩

/-- Scanning fails where a layout comes to a place at which no token starts. -/
theorem scanFrom_eq_error_iff {pos : Nat} {s : Text} {e : ScanError} :
    scanFrom pos s = .error e ↔
      ∃ (l : Layout) (rest : Text) (fault : Nat → ScanError), l.Valid ∧ l.text ++ rest = s ∧
        Stuck rest fault ∧ e = fault (pos + l.text.length) := by
  have hscan {l : Layout} {rest : Text} {fault : Nat → ScanError} (hl : l.Valid)
      (hstuck : Stuck rest fault) :
      scanFrom pos (l.text ++ rest) = .error (fault (pos + l.text.length)) := by
    rw [Layout.scanFrom_text_append hl hstuck.head, hstuck.scanFrom]
    rfl
  constructor
  · intro h
    obtain ⟨l, rest, hl, rfl, rfl | ⟨fault, hstuck⟩⟩ := exists_layout_append pos s
    · rw [Layout.scanFrom_text_append hl (by simp), scanFrom] at h
      cases h
    · rw [hscan hl hstuck] at h
      cases h
      exact ⟨l, rest, fault, hl, rfl, hstuck, rfl⟩
  · rintro ⟨l, rest, fault, hl, rfl, hstuck, rfl⟩
    exact hscan hl hstuck

/-- A text that is cut into tokens is a layout of them. -/
theorem exists_layout {pos : Nat} {s : Text} {ts : List Token} (h : scanFrom pos s = .ok ts) :
    ∃ l : Layout, l.Valid ∧ l.tokens = ts ∧ l.text = s := by
  obtain ⟨l, rest, hl, rfl, rfl | ⟨fault, hstuck⟩⟩ := exists_layout_append pos s
  · rw [Layout.scanFrom_text_append hl (by simp), scanFrom, Except.map, List.append_nil] at h
    cases h
    exact ⟨l, hl, rfl, (List.append_nil l.text).symm⟩
  · rw [Layout.scanFrom_text_append hl hstuck.head, hstuck.scanFrom] at h
    cases h

/-- What stands in a text are its tokens. -/
theorem mem_text_of_mem_spelling {l : Layout} {t : Token} (ht : t ∈ l.tokens) {c : CodePoint}
    (hc : c ∈ t.spelling) : c ∈ l.text := by
  simp only [Layout.tokens, List.mem_map] at ht
  obtain ⟨p, hp, rfl⟩ := ht
  simp only [Layout.text, Layout.spread, List.mem_append, List.mem_flatMap]
  exact .inr ⟨p, hp, .inl hc⟩

/-- Besides its tokens a text has blanks only. -/
theorem not_mem_text {l : Layout} (hl : l.Valid) {c : CodePoint} (hc : c.is isBlank = false)
    (h : ∀ t ∈ l.tokens, c ∉ t.spelling) : c ∉ l.text := by
  have hgap {gap : Text} (hgap : isBlankText gap = true) : c ∉ gap := by
    intro hm
    have := List.all_eq_true.mp hgap c hm
    simp [hc] at this
  simp only [Layout.text, Layout.spread, List.mem_append, List.mem_flatMap, not_or, not_exists,
    not_and]
  exact ⟨hgap hl.lead, fun p hp => ⟨h p.1 (List.mem_map_of_mem hp), hgap (hl.gaps p hp)⟩⟩

/-- The tokens with one blank between every two. -/
def write (ts : List Token) : Text :=
  [CodePoint.char ' '].intercalate (ts.map spelling)

theorem exists_layout_write {ts : List Token} (h : ∀ t ∈ ts, t.WellFormed) :
    ∃ l : Layout, l.Valid ∧ l.tokens = ts ∧ l.text = write ts := by
  induction ts with
  | nil => exact ⟨⟨[], []⟩, ⟨rfl, by simp, by simp, .nil⟩, rfl, rfl⟩
  | cons t ts ih =>
    simp only [List.mem_cons, forall_eq_or_imp] at h
    obtain ⟨l, hl, hts, htext⟩ := ih h.2
    cases ts with
    | nil =>
      refine ⟨l.push t, hl.push h.1 ?_, by simp [hts], ?_⟩
      · simp [htext, write]
      · simp [htext, write]
    | cons u us =>
      have hgap : isBlankText [CodePoint.char ' '] = true := by decide
      refine ⟨_, (hl.indent hgap).push h.1 fun _ c hc => ?_, ?_, ?_⟩
      · obtain rfl : CodePoint.char ' ' = c := by simpa [Layout.text] using hc
        decide
      · rw [Layout.tokens_push, ← hts]
        rfl
      · have : Layout.text ⟨[CodePoint.char ' '] ++ l.lead, l.pieces⟩ =
            .char ' ' :: write (u :: us) := by
          simp [← htext, Layout.text]
        rw [Layout.text_push, this]
        simp [write]

theorem scan_write {ts : List Token} (h : ∀ t ∈ ts, t.WellFormed) : scan (write ts) = .ok ts := by
  obtain ⟨l, hl, rfl, htext⟩ := exists_layout_write h
  rw [← htext, Layout.scan_text hl]

theorem not_mem_write {c : CodePoint} (hc : c ≠ .char ' ') {ts : List Token}
    (h : ∀ t ∈ ts, c ∉ t.spelling) : c ∉ write ts := by
  induction ts with
  | nil => simp [write]
  | cons t ts ih =>
    simp only [List.mem_cons, forall_eq_or_imp] at h
    cases ts with
    | nil => simpa [write] using h.1
    | cons u us => simpa [write, hc, h.1] using ih h.2

/-- **Scanning is the inverse of laying tokens out.** A text is cut into tokens
exactly where it is a layout of them: all that is left out of the tokens are
the blanks between them and the backquotes around names. -/
theorem scan_eq_ok_iff_layout {text : Text} {ts : List Token} :
    scan text = .ok ts ↔ ∃ l : Layout, l.Valid ∧ l.tokens = ts ∧ l.text = text := by
  constructor
  · exact exists_layout
  · rintro ⟨l, hl, rfl, rfl⟩
    exact Layout.scan_text hl

end Token

end TableSink
