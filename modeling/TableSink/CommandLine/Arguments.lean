/-
The arguments of a call.

An argument that starts with a hyphen is an option, or several short ones
together; two hyphens alone end the options. The program takes options before
its command only, a command takes them anywhere. What is wrong with an option
is reported before help is shown, and help before anything else.
-/
import TableSink.CommandLine.Usage
import TableSink.Text.Similar

namespace TableSink.CommandLine

open Text

/-- What an option switches on. -/
inductive Switch where
  | help
  | quiet
  deriving DecidableEq

/-- The switch of a long option. -/
def longSwitch? (p : Page) (name : String) : Option Switch :=
  if name = "--help" then some .help
  else if name = "--quiet" ∧ p = .check then some .quiet
  else none

/-- The switch of a letter. -/
def shortSwitch? (p : Page) (c : Char) : Option Switch :=
  if c = 'q' ∧ p = .check then some .quiet else none

/-- The switches of letters after one hyphen. -/
def readLetters (p : Page) : List Char → Except Halt (List Switch)
  | [] => .ok []
  | c :: s =>
    match shortSwitch? p c with
    | some w => (readLetters p s).map (w :: ·)
    | none => .error (.misuse p (.noOption ("-" ++ c.toString) []))

/-- The switches of an argument that starts with a hyphen. What stands after an
equals sign would be a value; no option takes one. -/
def readOption (p : Page) (arg : String) : Except Halt (List Switch) :=
  let name := String.ofList (arg.toList.takeWhile (· ≠ '='))
  match longSwitch? p name with
  | some w => if '=' ∈ arg.toList then .error (.optionValue name) else .ok [w]
  | none =>
    if arg.startsWith "--" then
      .error (.misuse p (.noOption name (closeTo name p.longOptions)))
    else readLetters p (arg.toList.drop 1)

/-- Options and the other arguments. -/
structure Split where
  switches : List Switch
  others : List String

/-- Is the argument an option? A hyphen alone is none. -/
def isOption (arg : String) : Bool :=
  arg.startsWith "-" && 1 < arg.length

/-- Takes the options out of arguments; `anywhere` says whether options may
follow other arguments. -/
def split (p : Page) (anywhere : Bool) : List String → Except Halt Split
  | [] => .ok ⟨[], []⟩
  | arg :: args =>
    if arg = "--" then .ok ⟨[], args⟩
    else if isOption arg then
      match readOption p arg with
      | .error e => .error e
      | .ok switches =>
        (split p anywhere args).map fun r => { r with switches := switches ++ r.switches }
    else if anywhere then
      (split p anywhere args).map fun r => { r with others := arg :: r.others }
    else .ok ⟨[], arg :: args⟩

/-- Options and other arguments, unless help is asked for. -/
def splitOrHelp (p : Page) (anywhere : Bool) (args : List String) : Except Halt Split := do
  let r ← split p anywhere args
  if .help ∈ r.switches then throw (.help p)
  return r

/-- A call of a command. -/
structure Call where
  command : Page
  quiet : Bool
  /-- The arguments that are not options. -/
  arguments : List String
  deriving DecidableEq

/-- Reads the arguments of a command. -/
def readCommand (p : Page) (args : List String) : Except Halt Call := do
  let r ← splitOrHelp p true args
  return ⟨p, r.switches.contains .quiet, r.others⟩

/-- Reads the arguments of the program. What is no command
is tried as an option first. -/
def read (args : List String) : Except Halt Call := do
  if args.isEmpty then throw .bare
  let r ← splitOrHelp .program false args
  match r.others with
  | [] => throw (.misuse .program .missingCommand)
  | "check" :: rest => readCommand .check rest
  | "describe" :: rest => readCommand .describe rest
  | name :: rest =>
    let _ ← splitOrHelp .program false (name :: rest)
    throw (.misuse .program (.noCommand name (closeTo name ["check", "describe"])))

end TableSink.CommandLine
