/-
Where scanning fails.

A text is cut into tokens from the left, so what stands before a fault is cut into
tokens already. A scan fails at a position where the text before it is a layout and
no token starts (`failsAt_iff`): two backquotes hold no name there, or a character
is neither a blank nor the first one of a token. There is one such position at most,
and a text without one is cut into tokens (`scan_fails_iff`).
-/
import TableSink.Proofs.Statement.Layout

namespace TableSink

open Text

namespace Token

/-- The position that a scan error tells. -/
def ScanError.position : ScanError → Nat
  | .emptyName pos => pos
  | .unexpected _ pos => pos

/-- A fault of the text at a position, with its wording. -/
inductive FaultAt (text : Text) (pos : Nat) : Text → Prop
  | emptyName : text[pos]? = some (.char backquote) → text[pos + 1]? = some (.char backquote) →
      FaultAt text pos ("Empty quoted identifier at position " ++ toString pos)
  | unexpected {c : CodePoint} : text[pos]? = some c → c.is isBlank = false →
      ¬Opens c (text.drop (pos + 1)) →
      FaultAt text pos ("Unexpected character '" ++ [c] ++ "' at position " ++ toString pos)

/-- The text before the position can be cut into tokens, and there is a fault at the
position. -/
structure FailsAt (text : Text) (pos : Nat) (reason : Text) : Prop where
  before : ∃ ts, scan (text.take pos) = .ok ts
  fault : FaultAt text pos reason

theorem faultAt_append_iff {before rest reason : Text} :
    FaultAt (before ++ rest) before.length reason ↔
      ∃ fault, Stuck rest fault ∧ (fault before.length).message = reason := by
  have hget (n : Nat) : (before ++ rest)[before.length + n]? = rest[n]? := by
    rw [List.getElem?_append_right (Nat.le_add_right _ _), Nat.add_sub_cancel_left]
  have hfirst : (before ++ rest)[before.length]? = rest[0]? := hget 0
  have hdrop : (before ++ rest).drop (before.length + 1) = rest.drop 1 := by
    rw [List.drop_append]
    simp
  constructor
  · intro h
    cases h with
    | emptyName h₀ h₁ =>
      rw [hfirst, List.getElem?_eq_some_iff] at h₀
      rw [hget 1] at h₁
      cases rest with
      | nil => cases h₁
      | cons c after =>
        obtain ⟨-, rfl⟩ := h₀
        cases after with
        | nil => cases h₁
        | cons d after =>
          cases h₁
          exact ⟨_, .emptyName, rfl⟩
    | unexpected h₀ hblank hopens =>
      rw [hfirst] at h₀
      rw [hdrop] at hopens
      cases rest with
      | nil => cases h₀
      | cons c after =>
        cases h₀
        exact ⟨_, .unexpected hblank hopens, rfl⟩
  · rintro ⟨fault, hstuck, rfl⟩
    cases hstuck with
    | emptyName => exact .emptyName hfirst (hget 1)
    | unexpected hblank hopens => exact .unexpected hfirst hblank (by rwa [hdrop])

/-- A text fails where a layout in it comes to a place at which no token starts. -/
theorem failsAt_iff {text : Text} {pos : Nat} {reason : Text} :
    FailsAt text pos reason ↔
      ∃ (l : Layout) (rest : Text) (fault : Nat → ScanError), l.Valid ∧ l.text ++ rest = text ∧
        l.text.length = pos ∧ Stuck rest fault ∧ (fault pos).message = reason := by
  constructor
  · rintro ⟨⟨ts, hts⟩, hfault⟩
    obtain ⟨l, hl, -, htext⟩ := exists_layout hts
    have hlt : pos < text.length := by
      cases hfault with
      | emptyName h _ | unexpected h _ _ => exact (List.getElem?_eq_some_iff.mp h).1
    have hlength : l.text.length = pos := by
      rw [htext, List.length_take]
      omega
    have hsplit : l.text ++ text.drop pos = text := by
      rw [htext, List.take_append_drop]
    have hfault' : FaultAt (l.text ++ text.drop pos) l.text.length reason := by
      rw [hsplit, hlength]
      exact hfault
    obtain ⟨fault, hstuck, hreason⟩ := faultAt_append_iff.mp hfault'
    rw [hlength] at hreason
    exact ⟨l, text.drop pos, fault, hl, hsplit, hlength, hstuck, hreason⟩
  · rintro ⟨l, rest, fault, hl, rfl, rfl, hstuck, hreason⟩
    refine ⟨⟨l.tokens, ?_⟩, faultAt_append_iff.mpr ⟨fault, hstuck, hreason⟩⟩
    rw [List.take_left]
    exact Layout.scan_text hl

/-- A place at which no token starts is told as the place where it is. -/
theorem Stuck.position {s : Text} {fault : Nat → ScanError} (h : Stuck s fault) (pos : Nat) :
    (fault pos).position = pos := by
  cases h <;> rfl

theorem failsAt_iff_scan {text : Text} {pos : Nat} {reason : Text} :
    FailsAt text pos reason ↔
      ∃ e, scan text = .error e ∧ e.position = pos ∧ e.message = reason := by
  rw [failsAt_iff]
  constructor
  · rintro ⟨l, rest, fault, hl, htext, rfl, hstuck, hreason⟩
    have hscan : scan text = .error (fault (0 + l.text.length)) :=
      scanFrom_eq_error_iff.mpr ⟨l, rest, fault, hl, htext, hstuck, rfl⟩
    rw [Nat.zero_add] at hscan
    exact ⟨_, hscan, hstuck.position _, hreason⟩
  · rintro ⟨e, hscan, rfl, hreason⟩
    obtain ⟨l, rest, fault, hl, htext, hstuck, rfl⟩ := scanFrom_eq_error_iff.mp hscan
    have hpos : (fault (0 + l.text.length)).position = l.text.length := by
      rw [hstuck.position, Nat.zero_add]
    rw [Nat.zero_add] at hreason
    rw [hpos]
    exact ⟨l, rest, fault, hl, htext, rfl, hstuck, hreason⟩

/-- **Scan errors tell the true position.** A scan fails at a position, with a reason,
exactly where the text before the position can be cut into tokens and the position has
the fault that the reason names. There is one such position at most, and where there is
none the text is cut into tokens. -/
theorem scan_fails_iff (text : Text) :
    (∀ pos reason, (∃ e, scan text = .error e ∧ e.position = pos ∧ e.message = reason) ↔
      FailsAt text pos reason) ∧
    (∀ pos pos' reason reason', FailsAt text pos reason → FailsAt text pos' reason' →
      pos = pos' ∧ reason = reason') ∧
    ((∃ ts, scan text = .ok ts) ↔ ∀ pos reason, ¬FailsAt text pos reason) := by
  refine ⟨fun pos reason => failsAt_iff_scan.symm, ?_, ?_⟩
  · intro pos pos' reason reason' h h'
    obtain ⟨e, he, rfl, rfl⟩ := failsAt_iff_scan.mp h
    obtain ⟨e', he', rfl, rfl⟩ := failsAt_iff_scan.mp h'
    cases he.symm.trans he'
    exact ⟨rfl, rfl⟩
  · constructor
    · rintro ⟨ts, hts⟩ pos reason h
      obtain ⟨e, he, -⟩ := failsAt_iff_scan.mp h
      cases hts.symm.trans he
    · intro h
      cases hscan : scan text with
      | ok ts => exact ⟨ts, rfl⟩
      | error e => exact absurd (failsAt_iff_scan.mpr ⟨e, hscan, rfl, rfl⟩) (h _ _)

/-- A blank before the fault counts, and so do the characters of a name. -/
example : scan "\x60;\x60\u3000 \x60\x60" = .error (.emptyName 5) := by
  with_unfolding_all rfl

end Token

end TableSink
