/-
What the program says about its use.
-/
import TableSink.Text.Literal

namespace TableSink.CommandLine

open Text

/-- The name of the program. -/
def programName : String := "jdbc-sink"

/-- What help is about: the program, or one of its commands. -/
inductive Page where
  | program
  | check
  | describe
  deriving DecidableEq

namespace Page

/-- The words that call the program, or a command of it. -/
def call : Page → String
  | .program => programName
  | .check => programName ++ " check"
  | .describe => programName ++ " describe"

/-- What may be written after these words. -/
def arguments : Page → String
  | .program => "[OPTIONS] COMMAND [ARGS]..."
  | .check => "[OPTIONS] CONFIG_FILE"
  | .describe => "[OPTIONS] STATEMENT"

/-- The line that shows how to call. -/
def usage (p : Page) : String :=
  "Usage: " ++ p.call ++ " " ++ p.arguments

/-- One sentence on what a call does. -/
def summary : Page → String
  | .program => "Validate JDBC sink export mappings."
  | .check => "Validate CONFIG_FILE and summarize the resulting settings."
  | .describe => "Parse STATEMENT and show the field mapping it produces."

/-- The options, with what they do. -/
def options : Page → List (String × String)
  | .check =>
    [("-q, --quiet", "Do not print each built mapping."), ("--help", "Show this message and exit.")]
  | .program | .describe => [("--help", "Show this message and exit.")]

/-- The commands, with what they do. -/
def commands : Page → List (String × String)
  | .program => [("check", summary .check), ("describe", summary .describe)]
  | .check | .describe => []

/-- A table of two columns under a title. -/
def titled (title : String) (rows : List (String × String)) : String :=
  let width := (rows.map (·.1.length)).foldl max 0
  if rows.isEmpty then ""
  else
    "\n" ++ title ++ ":\n" ++ String.join (rows.map fun (name, text) =>
      "  " ++ name ++ String.ofList (List.replicate (width - name.length + 2) ' ') ++ text ++ "\n")

/-- The whole page. -/
def help (p : Page) : String :=
  p.usage ++ "\n\n  " ++ p.summary ++ "\n" ++ titled "Options" p.options
    ++ titled "Commands" p.commands

/-- The names of the long options. -/
def longOptions : Page → List String
  | .check => ["--quiet", "--help"]
  | .program | .describe => ["--help"]

/-- The name of the argument of a command. -/
def argumentName : Page → String
  | .program => "COMMAND"
  | .check => "CONFIG_FILE"
  | .describe => "STATEMENT"

end Page

/-- What is wrong with a call. -/
inductive Misuse where
  | noOption (name : String) (close : List String)
  | noCommand (name : String) (close : List String)
  | missingCommand
  | missingArgument (name : String)
  | noSuchFile (argument path : String)
  | isDirectory (argument path : String)
  | extraArguments (arguments : List String)
  deriving DecidableEq

/-- The names that may have been meant. -/
def suggestion : List String → Text
  | [] => ""
  | [name] => " Did you mean " ++ quote name ++ "?"
  | names =>
    " (Did you mean one of: " ++ commaSeparated (names.map fun (name : String) => quote name)
      ++ "?)"

/-- The wording of a misuse. -/
def Misuse.message : Misuse → Text
  | .noOption name close => "No such option " ++ quote name ++ "." ++ suggestion close
  | .noCommand name close => "No such command " ++ quote name ++ "." ++ suggestion close
  | .missingCommand => "Missing command."
  | .missingArgument name => "Missing argument " ++ quote name ++ "."
  | .noSuchFile argument path =>
    "Invalid value for " ++ quote argument ++ ": File " ++ quote path ++ " does not exist."
  | .isDirectory argument path =>
    "Invalid value for " ++ quote argument ++ ": File " ++ quote path ++ " is a directory."
  | .extraArguments arguments =>
    "Got unexpected extra argument" ++ (if arguments.length = 1 then "" else "s") ++ " ("
      ++ " ".intercalate arguments ++ ")"

/-- Why a call ends before its command runs. -/
inductive Halt where
  /-- The help of a page was asked for. -/
  | help (p : Page)
  /-- The program was called without anything. -/
  | bare
  | misuse (p : Page) (cause : Misuse)
  | optionValue (name : String)
  deriving DecidableEq

end TableSink.CommandLine
