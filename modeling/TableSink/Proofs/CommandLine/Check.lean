/-
What a check says of a file.

A check loads the configuration in the file, makes its settings (`runFile`), and
tells what came of it: the settings in a summary, or the error that was in the
way. Flags only keep back what was logged (`check_tells_of_file`). The summary
shows three numbers, and breaks off at one that cannot be written
(`not_forall_exit_zero_iff`). Where an output refuses one of the lines before it,
the check ends with that as an error (`runOn_check_of_refused`).

All of this holds for every reader of documents, and for whatever reads the
arguments as it is documented.
-/
import TableSink.Proofs.CommandLine.Arguments
import TableSink.Proofs.CommandLine.Output

namespace TableSink

open Console Text

/-! ## Files and their settings -/

/-- What came of a file: what was printed about its keys, what was logged, and the
settings, or the wording of the error that was in the way. -/
structure FileRun where
  warnings : List Text
  log : List Text
  result : Except Text Settings

/-- Loads the configuration in a file and makes its settings. -/
def Config.runFile (reader : Yaml.Reader) (path : String) (entry : FileEntry) : FileRun :=
  match loadBy reader path entry with
  | .error e => ⟨[], [], .error e.message⟩
  | .ok c => ⟨c.run.warnings, c.run.outcome.log, c.run.outcome.result.mapError (·.message)⟩

/-- The numbers of the settings can be written. -/
def Settings.Showable (s : Settings) : Prop :=
  ∀ n ∈ [s.batchSize, s.maxRetries, s.retryDelay], isLong n = false

theorem Settings.showable_iff {s : Settings} :
    s.Showable ↔ [s.batchSize, s.maxRetries, s.retryDelay].any isLong = false := by
  simp only [Showable, List.any_eq_false, Bool.not_eq_true]

namespace FileRun

/-- The lines about what was printed and what was logged; the latter are kept back
where it is to be quiet. -/
def lines (r : FileRun) (quiet : Bool) : List Line :=
  r.warnings.map (⟨.warning, ·⟩) ++ if quiet then [] else r.log.map (⟨.info, ·⟩)

theorem style_ne_success {r : FileRun} {quiet : Bool} {line : Line}
    (h : line ∈ r.lines quiet) : line.style ≠ .success := by
  rcases List.mem_append.mp h with hwarning | hinfo
  · obtain ⟨text, -, rfl⟩ := List.mem_map.mp hwarning
    exact nofun
  · split at hinfo
    · cases hinfo
    · obtain ⟨text, -, rfl⟩ := List.mem_map.mp hinfo
      exact nofun

/-- The report on what came of a file. -/
def report (r : FileRun) (quiet : Bool) (path : String) : CommandLine.Report :=
  match r.result with
  | .error e => .failed (r.lines quiet) [] e
  | .ok s => CommandLine.summarize (r.lines quiet) path s

theorem report_of_ok {r : FileRun} {s : Settings} (h : r.result = .ok s) (quiet : Bool)
    (path : String) :
    r.report quiet path = CommandLine.summarize (r.lines quiet) path s := by
  simp only [report, h]

theorem report_of_error {r : FileRun} {e : Text} (h : r.result = .error e) (quiet : Bool)
    (path : String) : r.report quiet path = .failed (r.lines quiet) [] e := by
  simp only [report, h]

theorem attempted_report (r : FileRun) (quiet : Bool) (path : String) :
    (r.report quiet path).attempted = r.lines quiet := by
  unfold report CommandLine.summarize
  split
  · rfl
  · split <;> rfl

end FileRun

namespace CommandLine

/-! ## Reports -/

theorem summarize_of_showable {s : Settings} (h : s.Showable) (lines : List Line) (path : String) :
    summarize lines path s = ⟨lines, summary path s ++ numbers s, .exit 0⟩ := by
  simp only [summarize, Settings.showable_iff.mp h, Bool.false_eq_true, if_false]

theorem summarize_of_not_showable {s : Settings} (h : ¬s.Showable) (lines : List Line)
    (path : String) : summarize lines path s = ⟨lines, summary path s, .broken .longInteger⟩ := by
  have hlong := eq_true_of_ne_false (mt Settings.showable_iff.mpr h)
  simp only [summarize, hlong, if_true]

variable {reader : Yaml.Reader} {path : String} {content : List UInt8}

/-- What the reader answers about a file is the cause of a load that fails. -/
theorem reader_of_load {path' : String} {cause : Yaml.Fault}
    (h : Config.loadBy reader path (.file content) = .error (.document path' cause)) :
    reader content = .error cause := by
  simp only [Config.loadBy, Config.document] at h
  cases hread : reader content with
  | error cause' =>
    rw [hread] at h
    cases h
    rfl
  | ok d =>
    rw [hread] at h
    simp only [Except.mapError_ok, bind, Except.bind] at h
    split at h <;> cases h

/-- What is in the way of a configuration is reported, if the reader answers. -/
theorem loadFailure_of_answers {e : LoadError} (hyaml : reader.Answers content)
    (h : Config.loadBy reader path (.file content) = .error e) :
    loadFailure e = .failed [] [] e.message := by
  unfold loadFailure
  split
  next path' cause =>
    rw [if_pos (hyaml cause (reader_of_load h))]
  next => rfl

/-- A check reports what came of its file, if the reader answers. -/
theorem check_eq_report (hyaml : reader.Answers content) (quiet : Bool) :
    check reader quiet path (.file content) =
      (Config.runFile reader path (.file content)).report quiet path := by
  cases hload : Config.loadBy reader path (.file content) with
  | error fault =>
    simp only [check, Config.runFile, hload, loadFailure_of_answers hyaml hload]
    cases quiet <;> rfl
  | ok c =>
    simp only [check, Config.runFile, hload, FileRun.report]
    cases c.run.outcome.result with
    | error fault => rfl
    | ok s => rfl

/-! ## Calls -/

variable {w : World} {out : Output} {before after : List String}

theorem report_check (hdispatch : w.dispatch.Documented) (hyaml : w.reader.Answers content)
    (hfile : Names w.find path content) (hpath : IsPlain path)
    (hflags : ∀ flag ∈ before ++ after, IsQuietFlag flag) :
    w.report ("check" :: (before ++ path :: after)) =
      .ok ((Config.runFile w.reader (Path.shown path) (.file content)).report
        (!(before ++ after).isEmpty) (Path.shown path)) := by
  rw [World.report, hdispatch.check hfile hpath hflags]
  simp only [hfile.found, check_eq_report hyaml]

theorem ending_of_not_showable (hdispatch : w.dispatch.Documented)
    (hyaml : w.reader.Answers content) (hfile : Names w.find path content) (hpath : IsPlain path)
    (hflags : ∀ flag ∈ before ++ after, IsQuietFlag flag) {s : Settings}
    (hs : (Config.runFile w.reader (Path.shown path) (.file content)).result = .ok s)
    (hshow : ¬s.Showable) :
    (w.run ("check" :: (before ++ path :: after))).ending = .broken .longInteger := by
  rw [World.run, report_check hdispatch hyaml hfile hpath hflags, FileRun.report_of_ok hs,
    summarize_of_not_showable hshow]
  rfl

/-- **A check tells what comes of its file**, if the reader answers for it and the output
takes what is printed. It exits with 0 where there are settings whose numbers can be
written, and ends with their summary; where there are no settings it exits with 1, and ends
with the error that was in the way. Before that stand the warnings and, if no flag keeps
them back, the lines that were logged. A summary whose numbers cannot be written breaks
off. -/
theorem check_tells_of_file (hdispatch : w.dispatch.Documented)
    (hyaml : w.reader.Answers content) (hfile : Names w.find path content) (hpath : IsPlain path)
    (hflags : ∀ flag ∈ before ++ after, IsQuietFlag flag)
    (hout : out.Takes ((Config.runFile w.reader (Path.shown path) (.file content)).report
      (!(before ++ after).isEmpty) (Path.shown path)).lines) :
    let file := Config.runFile w.reader (Path.shown path) (.file content)
    let lines := file.lines !(before ++ after).isEmpty
    let call := w.runOn out ("check" :: (before ++ path :: after))
    (call.ending = .ok (.exit 0) ↔ ∃ s, file.result = .ok s ∧ s.Showable) ∧
    (call.ending = .ok (.exit 1) ↔ ∃ e, file.result = .error e) ∧
    (∀ s, file.result = .ok s → s.Showable → call =
      ⟨.ok (.exit 0), render (lines ++ summary (Path.shown path) s ++ numbers s), []⟩) ∧
    (∀ s, file.result = .ok s → ¬s.Showable → call =
      ⟨.ok (.broken .longInteger), render (lines ++ summary (Path.shown path) s), []⟩) ∧
    (∀ e, file.result = .error e →
      call = ⟨.ok (.exit 1), render (lines ++ [⟨.error, e⟩]), []⟩ ∧
        ∀ line ∈ lines ++ [⟨.error, e⟩], line.style ≠ .success) := by
  intro file lines call
  have hcall :
      call = (file.report (!(before ++ after).isEmpty) (Path.shown path)).result.written := by
    simp only [call, World.runOn, report_check hdispatch hyaml hfile hpath hflags]
    exact Report.sendTo_of_takes hout
  have hshown (s : Settings) (hs : file.result = .ok s) (hshow : s.Showable) : call =
      ⟨.ok (.exit 0), render (lines ++ summary (Path.shown path) s ++ numbers s), []⟩ := by
    rw [hcall, FileRun.report_of_ok hs, summarize_of_showable hshow, List.append_assoc]
    rfl
  have hbroken (s : Settings) (hs : file.result = .ok s) (hshow : ¬s.Showable) : call =
      ⟨.ok (.broken .longInteger), render (lines ++ summary (Path.shown path) s), []⟩ := by
    rw [hcall, FileRun.report_of_ok hs, summarize_of_not_showable hshow]
    rfl
  have hfailed (e : Text) (he : file.result = .error e) : call =
      ⟨.ok (.exit 1), render (lines ++ [⟨.error, e⟩]), []⟩ := by
    rw [hcall, FileRun.report_of_error he]
    rfl
  have hends : (call.ending = .ok (.exit 0) ↔ ∃ s, file.result = .ok s ∧ s.Showable) ∧
      (call.ending = .ok (.exit 1) ↔ ∃ e, file.result = .error e) := by
    cases hresult : file.result with
    | error e =>
      rw [hfailed e hresult]
      simp
    | ok s =>
      by_cases hshow : s.Showable
      · rw [hshown s hresult hshow]
        simp [hshow]
      · rw [hbroken s hresult hshow]
        simp [hshow]
  refine ⟨hends.1, hends.2, hshown, hbroken, fun e he => ⟨hfailed e he, fun line hline => ?_⟩⟩
  rcases List.mem_append.mp hline with hline | hline
  · exact FileRun.style_ne_success hline
  · rw [List.mem_singleton.mp hline]
    exact nofun

/-- A line that the output refuses before the summary is an error of the check, also where
there are settings. A flag that keeps the line back keeps the error back. -/
theorem runOn_check_of_refused (hdispatch : w.dispatch.Documented)
    (hyaml : w.reader.Answers content) (hfile : Names w.find path content) (hpath : IsPlain path)
    (hflags : ∀ flag ∈ before ++ after, IsQuietFlag flag) {taken later : List Line} {line : Line}
    {why : Text} (hlines : (Config.runFile w.reader (Path.shown path) (.file content)).lines
      (!(before ++ after).isEmpty) = taken ++ line :: later)
    (htaken : out.Takes taken) (hline : out line = some why) (herror : out ⟨.error, why⟩ = none) :
    w.runOn out ("check" :: (before ++ path :: after)) =
      ⟨.ok (.exit 1), render (taken ++ [⟨.error, why⟩]), []⟩ := by
  simp only [World.runOn, report_check hdispatch hyaml hfile hpath hflags]
  exact Report.sendTo_of_refused ((FileRun.attempted_report _ _ _).trans hlines) htaken hline herror

/-- Are there settings, and can their numbers be written? -/
def shown? (r : FileRun) : Option Bool :=
  match r.result with
  | .ok s => some ([s.batchSize, s.maxRetries, s.retryDelay].all fun n => !isLong n)
  | .error _ => none

theorem exists_of_shown? {r : FileRun} {b : Bool} (h : shown? r = some b) :
    ∃ s, r.result = .ok s ∧ (s.Showable ↔ b = true) := by
  unfold shown? at h
  split at h
  next s hs =>
    refine ⟨s, hs, ?_⟩
    rw [← Option.some.inj h]
    simp only [Settings.Showable, List.all_eq_true, Bool.not_eq_true']
  next => cases h

theorem answers_of_result {s : Settings}
    (h : (Config.runFile reader path (.file content)).result = .ok s) : reader.Answers content := by
  intro cause hread
  rw [Config.runFile, Config.loadBy, Config.document, hread] at h
  cases h

/-- A document with the two values that have to be set. -/
def modest : List UInt8 :=
  "connect.jdbc.connection.uri: c\n".toUTF8.toList
    ++ "connect.jdbc.sink.export.mappings: INSERT INTO t SELECT * FROM s\n".toUTF8.toList

/-- The same with more tries than can be written, sixteen to the power of 3572. -/
def lavish : List UInt8 :=
  modest ++ "connect.jdbc.sink.max.retries: 0x1".toUTF8.toList
    ++ List.replicate 3572 '0'.toUInt8 ++ ['\n'.toUInt8]

/-- A directory with one file of this content. -/
def treeOf (content : List UInt8) : FileTree where
  files := [(["s.yaml"], content)]

theorem names_treeOf (content : List UInt8) : Names (treeOf content).find "s.yaml" content := by
  have hparts : Path.parts "s.yaml" = ["s.yaml"] := by decide +kernel
  have hrelative : "s.yaml".startsWith "/" = false := by decide +kernel
  have hname : ¬Path.nameLimit < "s.yaml".utf8ByteSize := by decide +kernel
  refine names_of_find ?_
  rw [FileTree.find, if_neg (by decide +kernel), if_neg (by decide +kernel), hrelative, hparts]
  simp [treeOf, FileTree.follow, FileTree.entryAt, FileTree.entry, FileTree.isDirectory, hname]

theorem isPlain_path : IsPlain "s.yaml" := by
  show "s.yaml".startsWith "-" = false
  decide +kernel

/-- What comes of this file. -/
def fileRunOf (content : List UInt8) : FileRun :=
  Config.runFile Yaml.reader (Path.shown "s.yaml") (.file content)

theorem shown_modest : shown? (fileRunOf modest) = some true := by
  decide +kernel

theorem takes_modest :
    Output.utf8.Takes ((fileRunOf modest).report true (Path.shown "s.yaml")).lines := by
  decide +kernel

theorem check_tells_of_modest :
    dispatch.Documented ∧ Yaml.reader.Answers modest ∧
    Names (treeOf modest).find "s.yaml" modest ∧ IsPlain "s.yaml" ∧
    (∀ flag ∈ ["-q"] ++ [], IsQuietFlag flag) ∧
    Output.utf8.Takes ((fileRunOf modest).report true (Path.shown "s.yaml")).lines ∧
    (∃ s, (fileRunOf modest).result = .ok s ∧ s.Showable) ∧
    (World.runOn { find := (treeOf modest).find } Output.utf8 ["check", "-q", "s.yaml"]).ending =
      .ok (.exit 0) := by
  obtain ⟨s, hs, hshow⟩ := exists_of_shown? shown_modest
  have hyaml : Yaml.reader.Answers modest := answers_of_result hs
  have hflags : ∀ flag ∈ ["-q"] ++ [], IsQuietFlag flag := by
    intro flag hflag
    exact .inl (List.mem_singleton.mp hflag)
  have htells := check_tells_of_file (w := { find := (treeOf modest).find }) documented_dispatch
    hyaml (names_treeOf modest) isPlain_path hflags takes_modest
  exact ⟨documented_dispatch, hyaml, names_treeOf modest, isPlain_path, hflags, takes_modest,
    ⟨s, hs, hshow.mpr rfl⟩, htells.1.mpr ⟨s, hs, hshow.mpr rfl⟩⟩

set_option maxRecDepth 10000 in
theorem shown_lavish : shown? (fileRunOf lavish) = some false := by
  decide +kernel

/-- A check can break off where there are settings. -/
theorem not_forall_exit_zero_iff :
    ¬∀ (w : World) (path : String) (content : List UInt8), w.dispatch.Documented →
      w.reader.Answers content → Names w.find path content → IsPlain path →
      ((w.run ["check", path]).ending = .exit 0 ↔
        ∃ s, (Config.runFile w.reader (Path.shown path) (.file content)).result = .ok s) := by
  intro h
  obtain ⟨s, hs, hshow⟩ := exists_of_shown? shown_lavish
  have hyaml : Yaml.reader.Answers lavish := answers_of_result hs
  have hexit := (h { find := (treeOf lavish).find } _ _ documented_dispatch hyaml
    (names_treeOf lavish) isPlain_path).mpr ⟨s, hs⟩
  have hbroken : (World.run { find := (treeOf lavish).find }
      ("check" :: ([] ++ "s.yaml" :: []))).ending = .broken .longInteger :=
    ending_of_not_showable documented_dispatch hyaml (names_treeOf lavish) isPlain_path nofun hs
      (mt hshow.mp nofun)
  rw [List.nil_append, hexit] at hbroken
  cases hbroken

end CommandLine

end TableSink
