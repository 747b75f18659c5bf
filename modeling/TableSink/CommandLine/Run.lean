/-
What the program does when it is called.

`check` reads a configuration and sums up its settings; `describe` shows the
mapping of one statement. Both answer lines and an exit code. A call can also
be broken off by a failure that nobody expects; what was printed before then
stays.

A call depends on a world: on the files, on what reads the documents in them and
on what makes a command of arguments. The lines go to an output, which may refuse
one.
-/
import TableSink.CommandLine.Arguments
import TableSink.Config.File
import TableSink.Console

namespace TableSink.CommandLine

open Console Text

/-- What breaks off a call: a document with a mistake that is not reported, an
integer that is too long to be shown, or a path that names no file. -/
inductive Failure where
  | document (cause : Yaml.Slip)
  | longInteger
  | nullInPath
  deriving DecidableEq

/-- The wording of a failure. -/
def Failure.message : Failure → Text
  | .document cause => cause.message
  | .longInteger => longMessage
  | .nullInPath => "embedded null byte"

/-- How a call ends. -/
inductive Ending where
  | exit (code : Nat)
  | broken (f : Failure)
  deriving DecidableEq

/-- The lines that a command prints, and how it ends. Those that it attempts come
first: where one of these is refused, that is an error like any other. -/
structure Report where
  attempted : List Line
  rest : List Line
  ending : Ending

/-- All lines of a report. -/
def Report.lines (r : Report) : List Line :=
  r.attempted ++ r.rest

/-- A report that ends in an error. -/
def Report.failed (attempted rest : List Line) (message : Text) : Report :=
  ⟨attempted, rest ++ [⟨.error, message⟩], .exit 1⟩

/-! ## Checking a configuration -/

/-- The lines that sum up settings, but for the numbers. -/
def summary (path : String) (s : Settings) : List Line :=
  [⟨.header, "Sink settings: " ++ path⟩,
    ⟨.info, "  Connection:   " ++ s.connection⟩,
    ⟨.info, "  Mappings:     " ++ toString s.mappings.length⟩,
    ⟨.info, "  Tables:       " ++ commaSeparated s.tableNames⟩,
    ⟨.info, "  Error policy: " ++ s.policy.name⟩]

/-- The lines that sum up the numbers of settings, and end the check. -/
def numbers (s : Settings) : List Line :=
  [⟨.info, "  Batch size:   " ++ toString s.batchSize ++ "  (retries: " ++ toString s.maxRetries
      ++ ", delay: " ++ toString s.retryDelay ++ "ms)"⟩,
    ⟨.success, "Configuration is valid"⟩]

/-- The report on settings: their summary, which breaks off at a number that is
too long to be shown. -/
def summarize (attempted : List Line) (path : String) (s : Settings) : Report :=
  if [s.batchSize, s.maxRetries, s.retryDelay].any isLong then
    ⟨attempted, summary path s, .broken .longInteger⟩
  else ⟨attempted, summary path s ++ numbers s, .exit 0⟩

/-- The report on a file that gives no configuration. -/
def loadFailure (e : LoadError) : Report :=
  match e with
  | .document _ (.unfit cause) =>
    if cause.mistake = .value then .failed [] [] e.message else ⟨[], [], .broken (.document cause)⟩
  | e => .failed [] [] e.message

/-- Checks the configuration in a file: warnings come first, then what was
logged, unless it is to be quiet, then the summary or the error. -/
def check (reader : Yaml.Reader) (quiet : Bool) (path : String) (entry : FileEntry) : Report :=
  match Config.loadBy reader path entry with
  | .error e => loadFailure e
  | .ok c =>
    let run := c.run
    let lines := run.warnings.map (⟨.warning, ·⟩)
      ++ (if quiet then [] else run.outcome.log.map (⟨.info, ·⟩))
    match run.outcome.result with
    | .error e => .failed lines [] e.message
    | .ok s => summarize lines path s

/-! ## Describing a statement -/

/-- The line of a column. -/
def columnLine (row : AliasRow) : Line :=
  ⟨.info, "  " ++ row.1 ++ " → " ++ row.2.name ++ (if row.2.isKey then "  [pk]" else "")⟩

/-- The names of the flags that a mapping sets. -/
def flags (m : Mapping) : List String :=
  (if m.autoCreate then ["AUTOCREATE"] else []) ++ (if m.autoEvolve then ["AUTOEVOLVE"] else [])
    ++ (if m.capitalize then ["CAPITALIZE"] else [])

/-- The lines that show a mapping. -/
def mappingLines (m : Mapping) : List Line :=
  [⟨.header, m.source ++ " → " ++ m.table ++ " (" ++ m.mode.name ++ ")"⟩]
    ++ (if m.allFields then [⟨.info, "  * (all fields)"⟩] else [])
    ++ m.aliases.rows.map columnLine
    ++ (if (flags m).isEmpty then []
      else [⟨.info, "  Flags: " ++ commaSeparated ((flags m).map ofString)⟩])
    ++ (if m.ignored.isEmpty then [] else [⟨.info, "  Ignored: " ++ commaSeparated m.ignored⟩])

/-- Shows the mapping of a statement, and whether it breaks the rule on keys. -/
def describe (text : String) : Report :=
  match Statement.parse text with
  | .error e => .failed [] [] ("Syntax error: " ++ e.reason)
  | .ok s =>
    let m := Mapping.ofStatement s
    match m.violation? with
    | some v => .failed [] (mappingLines m) v.message
    | none => ⟨[], mappingLines m, .exit 0⟩

/-! ## Results -/

/-- What a call wrote to its two outputs, and how it ended. -/
structure Result where
  ending : Ending
  output : Text
  errors : Text
  deriving DecidableEq

/-- The result of a report whose lines are all taken. -/
def Report.result (r : Report) : Result := ⟨r.ending, render r.lines, ""⟩

/-- What a call wrote where its output may refuse lines, and how it ended; a line
that is refused out of any attempt breaks it off. -/
structure Written where
  ending : Except Text Ending
  output : Text
  errors : Text

/-- What was written by a call with a result. -/
def Result.written (r : Result) : Written := ⟨.ok r.ending, r.output, r.errors⟩

namespace Report

/-- Sends the rest of a report after lines that were taken. -/
def sendRest (r : Report) (out : Output) (taken : List Line) : Written :=
  match out.send r.rest with
  | (more, none) => ⟨.ok r.ending, render (taken ++ more), ""⟩
  | (more, some why) => ⟨.error why, render (taken ++ more), ""⟩

/-- Sends the lines of a report. If one is refused that was attempted, the rest is
the error. -/
def sendTo (r : Report) (out : Output) : Written :=
  match out.send r.attempted with
  | (taken, none) => r.sendRest out taken
  | (taken, some why) => (failed [] [] why).sendRest out taken

end Report

/-! ## Commands -/

/-- What the program is called for: one of its commands, unless the call ends
before. -/
inductive Request where
  | check (quiet : Bool) (path : String)
  | describe (text : String)
  | ended (r : Result)

/-- What makes a request of arguments; `find` answers what stands under a path. -/
abbrev Dispatch := (find : String → FileEntry) → (args : List String) → Request

/-- What is written when a call ends before its command runs. -/
def Halt.result : Halt → Result
  | .help p => ⟨.exit 0, p.help, ""⟩
  | .bare => ⟨.exit 2, "", Page.help .program⟩
  | .misuse p cause =>
    ⟨.exit 2, "", plain (p.usage ++ "\nTry '" ++ p.call ++ " --help' for help.\n\nError: "
      ++ cause.message ++ "\n")⟩
  | .optionValue name =>
    ⟨.exit 2, "", plain ("Error: Option " ++ quote name ++ " does not take a value.\n")⟩

/-- Refuses arguments after the one that a command takes. -/
def refuseMore (p : Page) (more : List String) : Except Halt Unit :=
  if more.isEmpty then .ok () else .error (.misuse p (.extraArguments more))

/-- The request of a call. -/
def Call.request (c : Call) (find : String → FileEntry) : Except Halt Request := do
  let p := c.command
  match c.arguments with
  | [] => throw (.misuse p (.missingArgument p.argumentName))
  | argument :: more =>
    if p = .check then
      if '\x00' ∈ argument.toList then return .ended ⟨.broken .nullInPath, "", ""⟩
      match find argument with
      | .missing | .tooLong => throw (.misuse p (.noSuchFile p.argumentName argument))
      | .directory => throw (.misuse p (.isDirectory p.argumentName argument))
      | .file _ =>
        refuseMore p more
        return .check c.quiet argument
    else
      refuseMore p more
      return .describe argument

/-- Makes a request of arguments. -/
def dispatch : Dispatch := fun find args =>
  match (do (← read args).request find : Except Halt Request) with
  | .error h => .ended h.result
  | .ok r => r

/-! ## Calls -/

/-- What a call depends on beside its arguments. -/
structure World where
  /-- What stands under a path. -/
  find : String → FileEntry
  reader : Yaml.Reader := Yaml.reader
  dispatch : Dispatch := CommandLine.dispatch

namespace World

/-- The report of the command that a call comes to, or the result where it comes
to none. -/
def report (w : World) (args : List String) : Except Result Report :=
  match w.dispatch w.find args with
  | .check quiet path => .ok (CommandLine.check w.reader quiet (Path.shown path) (w.find path))
  | .describe text => .ok (CommandLine.describe text)
  | .ended r => .error r

/-- What the program does when it is called with the given arguments. -/
def run (w : World) (args : List String) : Result :=
  match w.report args with
  | .ok r => r.result
  | .error r => r

/-- What the program does on an output that may refuse lines. -/
def runOn (w : World) (out : Output) (args : List String) : Written :=
  match w.report args with
  | .ok r => r.sendTo out
  | .error r => r.written

end World

/-- What the program does in a world with these files. -/
def run (find : String → FileEntry) (args : List String) : Result :=
  World.run { find } args

/-! ## Interruptions -/

/-- What is written when the user breaks off a call. -/
def cancelled : Result :=
  ⟨.exit 130, "\n⚠️  Cancelled by user\n", ""⟩

/-- What is written when a call fails with a message. -/
def failed (message : String) : Result :=
  ⟨.exit 1, "", plain ("Error: " ++ message ++ "\n")⟩

end TableSink.CommandLine
