/-
The settings of a sink: where it is connected, what it writes and how it goes
on after a failure.
-/
import TableSink.Mapping.Basic
import TableSink.Text.Blank

namespace TableSink

open Text

/-! ## What happens after a failure -/

/-- What a sink does when a write fails: pass over it, stop, or try again. -/
inductive ErrorPolicy where
  | noop
  | throw
  | retry
  deriving DecidableEq, Hashable

namespace ErrorPolicy

/-- All policies. -/
def all : List ErrorPolicy :=
  [.noop, .throw, .retry]

/-- The name of a policy. -/
def name : ErrorPolicy → String
  | .noop => "NOOP"
  | .throw => "THROW"
  | .retry => "RETRY"

/-- The word that names a policy, in small letters. -/
def word : ErrorPolicy → String
  | .noop => "noop"
  | .throw => "throw"
  | .retry => "retry"

/-- The policy that a word names, in capital or small letters and with blanks
around it. No letter outside the Latin alphabet has a small form among the
letters of these words. -/
def ofWord? (word : Text) : Option ErrorPolicy :=
  all.find? fun p => ofString p.word == (strip word).map (·.map Char.toLower)

/-- The literal of a policy. -/
def literal (p : ErrorPolicy) : String :=
  "<ErrorPolicy." ++ p.name ++ ": '" ++ p.word ++ "'>"

end ErrorPolicy

/-! ## Settings -/

/-- Everything that a sink needs to run. -/
structure Settings where
  /-- The address of the database. -/
  connection : Text
  user : Option Text
  password : Option Text
  /-- The mappings, in the order of their statements. -/
  mappings : List Mapping
  policy : ErrorPolicy
  /-- How often a write is tried again. -/
  maxRetries : Int
  /-- How many records are written at once. -/
  batchSize : Int
  /-- How many milliseconds pass before a write is tried again. -/
  retryDelay : Int
  deriving BEq, Hashable

namespace Settings

/-- Why settings are refused. -/
inductive ArgumentError where
  | connection
  | retryDelay
  | batchSize
  deriving DecidableEq

/-- The wording of a refusal. -/
def ArgumentError.message : ArgumentError → String
  | .connection => "Invalid connection value. Cannot be null or empty"
  | .retryDelay => "Invalid retryDelay value. Needs to be greater than zero"
  | .batchSize => "Invalid batchSize value. Needs to be greater than zero"

/-- The settings with the given parts. The connection is checked first, then
the delay, then the size of a batch. -/
def create (connection user password : Option Text) (mappings : List Mapping)
    (policy : ErrorPolicy) (maxRetries batchSize retryDelay : Int) :
    Except ArgumentError Settings :=
  let connection := connection.getD []
  if connection = [] then .error .connection
  else if retryDelay ≤ 0 then .error .retryDelay
  else if batchSize ≤ 0 then .error .batchSize
  else .ok { connection, user, password, mappings, policy, maxRetries, batchSize, retryDelay }

/-- The names of the tables that are written, each once and in ascending
order. -/
def tableNames (s : Settings) : List Text :=
  sort (s.mappings.map (·.table)).eraseDups

/-- The literal of settings. The password is not part of it. Numbers of any length
stand in it; in the program it cannot be written where one of them has too many
digits (`isLong`). -/
def literal (s : Settings) : Text :=
  "JdbcSinkSettings(connection=" ++ quote s.connection
    ++ ", user=" ++ optionLiteral s.user
    ++ ", mappings=" ++ tupleLiteral (s.mappings.map Mapping.literal)
    ++ ", error_policy=" ++ s.policy.literal
    ++ ", max_retries=" ++ toString s.maxRetries
    ++ ", batch_size=" ++ toString s.batchSize
    ++ ", retry_delay=" ++ toString s.retryDelay ++ ")"

end Settings

end TableSink
