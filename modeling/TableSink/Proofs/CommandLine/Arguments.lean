/-
How the arguments of a command are read.

A command takes its options out of its arguments wherever they stand, and what
does not start with a hyphen is left (`split_cons_other`). So a check of one file
is called with any number of flags before and after it (`read_check`), and a
description of a statement with nothing else (`read_describe`). What the commands
do is said of everything that reads arguments in this way (`Dispatch.Documented`).
-/
import TableSink.CommandLine.Run
import TableSink.Proofs.Except

namespace TableSink.CommandLine

/-! ## One argument -/

/-- The argument does not look like an option. -/
def IsPlain (arg : String) : Prop :=
  arg.startsWith "-" = false

theorem IsPlain.ne_hyphens {arg : String} (h : IsPlain arg) : arg ≠ "--" := by
  have hhyphens : "--".startsWith "-" = true := by decide +kernel
  rintro rfl
  rw [IsPlain, hhyphens] at h
  cases h

theorem IsPlain.isOption {arg : String} (h : IsPlain arg) : isOption arg = false := by
  rw [CommandLine.isOption, show arg.startsWith "-" = false from h, Bool.false_and]

theorem split_cons_other {p : Page} {arg : String} (h : IsPlain arg) {args : List String}
    {r : Split} (hr : split p true args = .ok r) :
    split p true (arg :: args) = .ok { r with others := arg :: r.others } := by
  rw [split, if_neg h.ne_hyphens, h.isOption, hr]
  rfl

/-- The flag makes a check quiet. -/
def IsQuietFlag (arg : String) : Prop :=
  arg = "-q" ∨ arg = "--quiet"

theorem IsQuietFlag.ne_hyphens {arg : String} (h : IsQuietFlag arg) : arg ≠ "--" := by
  rcases h with rfl | rfl
  · decide
  · decide

theorem IsQuietFlag.isOption {arg : String} (h : IsQuietFlag arg) : isOption arg = true := by
  rcases h with rfl | rfl
  · decide +kernel
  · decide +kernel

theorem IsQuietFlag.readOption {arg : String} (h : IsQuietFlag arg) :
    readOption .check arg = .ok [.quiet] := by
  rcases h with rfl | rfl
  · with_unfolding_all rfl
  · with_unfolding_all rfl

theorem split_cons_quiet {flag : String} (h : IsQuietFlag flag) {args : List String} {r : Split}
    (hr : split .check true args = .ok r) :
    split .check true (flag :: args) = .ok { r with switches := .quiet :: r.switches } := by
  rw [split, if_neg h.ne_hyphens, if_pos h.isOption, h.readOption, hr]
  rfl

/-! ## All arguments -/

theorem split_quiet_append {flags : List String} (h : ∀ flag ∈ flags, IsQuietFlag flag)
    {args : List String} {r : Split} (hr : split .check true args = .ok r) :
    split .check true (flags ++ args) =
      .ok { r with switches := flags.map (fun _ => .quiet) ++ r.switches } := by
  induction flags with
  | nil => exact hr
  | cons flag flags ih =>
    rw [List.forall_mem_cons] at h
    exact split_cons_quiet h.1 (ih h.2)

theorem split_check {before after : List String} {path : String} (hpath : IsPlain path)
    (h : ∀ flag ∈ before ++ after, IsQuietFlag flag) :
    split .check true (before ++ path :: after) =
      .ok ⟨(before ++ after).map fun _ => .quiet, [path]⟩ := by
  rw [List.forall_mem_append] at h
  have hend : split .check true [] = .ok ⟨[], []⟩ := rfl
  have hafter := split_quiet_append h.2 hend
  rw [List.append_nil, List.append_nil] at hafter
  rw [split_quiet_append h.1 (split_cons_other hpath hafter), List.map_append]

theorem readCommand_of_split {p : Page} {args : List String} {r : Split}
    (hr : split p true args = .ok r) (hhelp : .help ∉ r.switches) :
    readCommand p args = .ok ⟨p, r.switches.contains .quiet, r.others⟩ := by
  have hsplit : splitOrHelp p true args = .ok r := by
    rw [splitOrHelp, hr]
    exact Except.check_of_neg hhelp
  rw [readCommand, hsplit]
  rfl

theorem read_cons_check (args : List String) :
    read ("check" :: args) = readCommand .check args := by
  with_unfolding_all rfl

/-- A check of one file is quiet where it is called with a flag. -/
theorem read_check {before after : List String} {path : String} (hpath : IsPlain path)
    (h : ∀ flag ∈ before ++ after, IsQuietFlag flag) :
    read ("check" :: (before ++ path :: after)) =
      .ok ⟨.check, !(before ++ after).isEmpty, [path]⟩ := by
  have hhelp : Switch.help ∉ (before ++ after).map fun _ => Switch.quiet := by simp
  rw [read_cons_check, readCommand_of_split (split_check hpath h) hhelp]
  cases before ++ after <;> rfl

theorem read_cons_describe (args : List String) :
    read ("describe" :: args) = readCommand .describe args := by
  with_unfolding_all rfl

theorem read_describe {text : String} (h : IsPlain text) :
    read ["describe", text] = .ok ⟨.describe, false, [text]⟩ := by
  have hend : split .describe true [] = .ok ⟨[], []⟩ := rfl
  have hhelp : Switch.help ∉ ([] : List Switch) := List.not_mem_nil
  rw [read_cons_describe, readCommand_of_split (split_cons_other h hend) hhelp]
  rfl

/-! ## What is promised of a dispatch -/

/-- The path names a file with this content. No file has a null in its path. -/
structure Names (find : String → FileEntry) (path : String) (content : List UInt8) : Prop where
  found : find path = .file content
  noNull : '\x00' ∉ path.toList

theorem names_of_find {t : FileTree} {path : String} {content : List UInt8}
    (h : t.find path = .file content) : Names t.find path content where
  found := h
  noNull := by
    intro hnull
    rw [FileTree.find, if_pos (.inr hnull)] at h
    cases h

/-- The two ways of calling that are documented: a check of a file, with flags before and
after it, and a description of one text. -/
structure Dispatch.Documented (d : Dispatch) : Prop where
  check {find : String → FileEntry} {path : String} {content : List UInt8}
    {before after : List String} : Names find path content → IsPlain path →
    (∀ flag ∈ before ++ after, IsQuietFlag flag) →
    d find ("check" :: (before ++ path :: after)) = .check (!(before ++ after).isEmpty) path
  describe {find : String → FileEntry} {text : String} : IsPlain text →
    d find ["describe", text] = .describe text

theorem documented_dispatch : dispatch.Documented where
  check := by
    intro find path content before after hfile hpath hflags
    have hrequest : Call.request ⟨.check, !(before ++ after).isEmpty, [path]⟩ find =
        .ok (.check (!(before ++ after).isEmpty) path) := by
      simp only [Call.request, hfile.found, if_neg hfile.noNull, refuseMore]
      rfl
    rw [dispatch, read_check hpath hflags]
    simp only [bind, Except.bind, hrequest]
  describe := by
    intro find text hplain
    rw [dispatch, read_describe hplain]
    rfl

end TableSink.CommandLine
