/-
Configurations: rows of keys and values, of which a sink reads eight.

Every other key is reported and has no effect. A key that is absent holds its
default.
-/
import TableSink.Config.Key
import TableSink.Rows
import TableSink.Settings.Collect
import TableSink.Value.Integer
import TableSink.Value.Same

namespace TableSink

/-- Keys with their values, in the order in which the keys came first. -/
structure Config where
  rows : List (Value × Value)

namespace Config

/-- The configuration of rows in which keys may repeat. -/
def ofRows (rows : List (Value × Value)) : Config :=
  ⟨Rows.ofList rows⟩

/-- The value that holds for a key. -/
def value (c : Config) (key : Key) : Value :=
  (c.rows.lookup (.text key.name)).getD key.default

/-- Is the value one of the keys that are read? -/
def isKnown (k : Value) : Bool :=
  Key.all.any fun key => k == .text key.name

/-- The keys that are not read. -/
def strangeKeys (c : Config) : List Value :=
  (c.rows.map (·.1)).filter fun k => !isKnown k

/-- The texts of the keys that are not read, in ascending order. All of them
have to be written. -/
def unknownKeys (c : Config) : Except SettingsError (List Text) :=
  if Value.allWritable c.strangeKeys then
    .ok (Text.sort (c.strangeKeys.map Value.toText))
  else .error .longInteger

/-- What is printed about a key that is not read. -/
def warning (key : Text) : Text :=
  "Ignoring unknown sink config key '" ++ key ++ "'"

/-- The text that holds for a key; none where the value is null. -/
def text? (c : Config) (key : Key) : Except SettingsError (Option Text) :=
  match c.value key with
  | .null => .ok none
  | v => if v.isWritable then .ok (some v.toText) else .error .longInteger

/-- The integer that holds for a key. -/
def int (c : Config) (key : Key) : Except SettingsError Int :=
  let v := c.value key
  match v.toInt? with
  | some n => .ok n
  | none => .error (if v.isWritable then .config (.notInteger key v) else .longInteger)

/-- The request that a configuration makes. -/
def request (c : Config) : Except SettingsError SettingsRequest := do
  let mappings ← c.text? .mappings
  let connection ← c.text? .connection
  let user ← c.text? .user
  let password ← c.text? .password
  let policy ← c.text? .errorPolicy
  let maxRetries ← c.int .maxRetries
  let batchSize ← c.int .batchSize
  let retryDelay ← c.int .retryDelay
  return {
    mappings, connection, user, password
    policy := some (policy.getD [])
    maxRetries, batchSize, retryDelay }

/-- The settings of a configuration. -/
def settings (c : Config) : Outcome Settings :=
  match c.request with
  | .ok r => r.fulfil
  | .error e => ⟨[], .error e⟩

/-- What a run over a configuration printed, and what came of it. -/
structure Run where
  warnings : List Text
  outcome : Outcome Settings

/-- Makes the settings of a configuration, after warnings about the keys that
are not read. -/
def run (c : Config) : Run :=
  match c.unknownKeys with
  | .ok keys => ⟨keys.map warning, c.settings⟩
  | .error e => ⟨[], ⟨[], .error e⟩⟩

end Config

end TableSink
