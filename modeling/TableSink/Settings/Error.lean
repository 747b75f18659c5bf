/-
Why a configuration gives no settings.
-/
import TableSink.Config.Key
import TableSink.Mapping.Rule
import TableSink.Settings.Basic
import TableSink.Statement.Parser
import TableSink.Value.Writable

namespace TableSink

open Text

/-- What is wrong with a statement: it cannot be read, or its mapping breaks
the rule on keys. -/
inductive StatementFault where
  | unreadable (e : ParseError)
  | violation (v : Mapping.Violation)
  deriving DecidableEq

/-- The wording of a fault. -/
def StatementFault.reason : StatementFault → Text
  | .unreadable e => e.reason
  | .violation v => v.message

/-- What is missing from a configuration, or which rule it breaks. -/
inductive ConfigError where
  | noMappings
  | noStatements
  | statement (text : Text) (fault : StatementFault)
  | policy (word : Option Text)
  | noConnection
  | batchSize (n : Int)
  | retryDelay (n : Int)
  | notInteger (key : Config.Key) (v : Value)

namespace ConfigError

/-- The wording of a configuration error. A blank statement is shown as a
literal. -/
def message : ConfigError → Text
  | .noMappings => Config.Key.mappings.name ++ " is not set!"
  | .noStatements => Config.Key.mappings.name ++ " contains no mapping statements"
  | .statement text fault =>
    let shown := strip text
    Config.Key.mappings.name ++ " is not set correctly.\n"
      ++ "  Statement: " ++ (if shown = [] then quote text else shown) ++ "\n"
      ++ "  Reason: " ++ fault.reason
  | .policy word =>
    "Invalid error policy '" ++ word.getD missing ++ "'. Must be one of: "
      ++ commaSeparated (ErrorPolicy.all.map fun p => p.name)
  | .noConnection => Config.Key.connection.name ++ " is not set!"
  | .batchSize n => outOfRange .batchSize n
  | .retryDelay n => outOfRange .retryDelay n
  | .notInteger key v => key.name ++ " must be an integer, got " ++ v.literal
where
  outOfRange (key : Config.Key) (n : Int) : Text :=
    "Invalid " ++ key.name ++ " value " ++ toString n ++ ". Needs to be greater than zero"

end ConfigError

/-- Why there are no settings: the configuration is at fault, the parts of the
settings were refused, or an integer would have to be written that is too
long. -/
inductive SettingsError where
  | config (e : ConfigError)
  | argument (e : Settings.ArgumentError)
  | longInteger

/-- The wording of the error. -/
def SettingsError.message : SettingsError → Text
  | .config e => e.message
  | .argument e => e.message
  | .longInteger => longMessage

/-- The error about an integer that is out of range, which shows it. -/
def SettingsError.outOfRange (e : Int → ConfigError) (n : Int) : SettingsError :=
  if isLong n then .longInteger else .config (e n)

/-- The policy that a word names; a missing word names none. -/
def ErrorPolicy.parse (word : Option Text) : Except ConfigError ErrorPolicy :=
  match ErrorPolicy.ofWord? (word.getD []) with
  | some p => .ok p
  | none => .error (.policy word)

end TableSink
