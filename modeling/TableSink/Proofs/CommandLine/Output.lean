/-
What an output takes of a report.

Lines are sent one after the other until one is refused. Where none is, a call
writes what it writes to an output that takes everything (`sendTo_of_takes`). A line
that is refused in an attempt is an error of the call, though nothing else was wrong
(`sendTo_of_refused`). An output in UTF-8 refuses the lines with surrogates, and no
others (`utf8_eq_none_iff`).
-/
import Mathlib.Data.List.TakeWhile
import TableSink.CommandLine.Run

namespace TableSink

open Console

/-! ## Lines that are taken -/

namespace Console.Output

/-- The output takes each of the lines. -/
def Takes (out : Output) (lines : List Line) : Prop :=
  ∀ line ∈ lines, out line = none

instance (out : Output) (lines : List Line) : Decidable (out.Takes lines) :=
  inferInstanceAs (Decidable (∀ line ∈ lines, out line = none))

variable {out : Output} {lines more : List Line}

theorem takes_append : out.Takes (lines ++ more) ↔ out.Takes lines ∧ out.Takes more :=
  List.forall_mem_append

theorem send_of_takes (h : out.Takes lines) : out.send lines = (lines, none) := by
  induction lines with
  | nil => rfl
  | cons line lines ih =>
    obtain ⟨hline, hlines⟩ := List.forall_mem_cons.mp h
    simp only [send, hline, ih hlines]

theorem send_of_refused (h : out.Takes lines) {line : Line} {why : Text}
    (hline : out line = some why) : out.send (lines ++ line :: more) = (lines, some why) := by
  induction lines with
  | nil => simp only [List.nil_append, send, hline]
  | cons first lines ih =>
    obtain ⟨hfirst, hlines⟩ := List.forall_mem_cons.mp h
    simp only [List.cons_append, send, hfirst, ih hlines]

/-! ## Lines in UTF-8 -/

theorem isChar_of_mem_ofString {s : String} {c : CodePoint} (h : c ∈ Text.ofString s) :
    c.isChar = true := by
  obtain ⟨_, -, rfl⟩ := List.mem_map.mp h
  rfl

theorem utf8_eq_none_iff {line : Line} :
    utf8 line = none ↔ ∀ c ∈ line.text, c.isChar = true := by
  have hrender : (∀ c ∈ line.render, c.isChar = true) ↔ ∀ c ∈ line.text, c.isChar = true := by
    simp only [Line.render, List.forall_mem_append]
    exact ⟨fun h => h.1.1.2, fun h => ⟨⟨⟨fun _ => isChar_of_mem_ofString, h⟩,
      fun _ => isChar_of_mem_ofString⟩, fun _ => isChar_of_mem_ofString⟩⟩
  rw [← hrender, ← List.dropWhile_eq_nil_iff, utf8]
  -- What is left starts with a surrogate, if there is anything left.
  cases hrest : line.render.dropWhile (·.isChar) with
  | nil => simp
  | cons c rest =>
    have hc : c.isChar = false := by
      have := List.head?_dropWhile_not (·.isChar) line.render
      rw [hrest] at this
      simpa using this
    simp [hc]

end Console.Output

/-! ## Reports that are taken -/

namespace CommandLine.Report

variable {r : Report} {out : Output}

theorem sendRest_of_takes {taken : List Line} (h : out.Takes r.rest) :
    r.sendRest out taken = ⟨.ok r.ending, render (taken ++ r.rest), ""⟩ := by
  rw [sendRest, Output.send_of_takes h]

/-- Where every line is taken, the output is as good as any. -/
theorem sendTo_of_takes (h : out.Takes r.lines) : r.sendTo out = r.result.written := by
  obtain ⟨hattempted, hrest⟩ := Output.takes_append.mp h
  rw [sendTo, Output.send_of_takes hattempted]
  exact sendRest_of_takes hrest

/-- A line that is refused in an attempt ends the call with an error. -/
theorem sendTo_of_refused {taken later : List Line} {line : Line} {why : Text}
    (hr : r.attempted = taken ++ line :: later) (htaken : out.Takes taken)
    (hline : out line = some why) (herror : out ⟨.error, why⟩ = none) :
    r.sendTo out = ⟨.ok (.exit 1), render (taken ++ [⟨.error, why⟩]), ""⟩ := by
  have hrest : out.Takes (failed [] [] why).rest := by
    rintro _ (_ | ⟨_, ⟨⟩⟩)
    exact herror
  rw [sendTo, hr, Output.send_of_refused htaken hline]
  exact sendRest_of_takes hrest

end CommandLine.Report

end TableSink
