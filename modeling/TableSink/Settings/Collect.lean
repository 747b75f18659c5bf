/-
Settings from a text of statements.

The statements are taken from left to right. Each that can be read is built
into a mapping, and that is logged; the first that cannot be read, or whose
mapping breaks the rule on keys, ends the run. After the statements come the
policy, the connection, the size of a batch and the delay, in this order.
-/
import TableSink.Mapping.Build
import TableSink.Settings.Error
import TableSink.Statement.Segment

namespace TableSink

/-- What a run logged, and what came of it. -/
structure Outcome (α : Type) where
  log : List Text
  result : Except SettingsError α

namespace Mapping

/-- The mappings of statements. -/
def collect : List Text → Outcome (List Mapping)
  | [] => ⟨[], .ok []⟩
  | text :: texts =>
    match Statement.parse text with
    | .error e => ⟨[], .error (.config (.statement text (.unreadable e)))⟩
    | .ok s =>
      let m := ofStatement s
      match m.violation? with
      | some v => ⟨[m.announcement], .error (.config (.statement text (.violation v)))⟩
      | none =>
        let rest := collect texts
        ⟨m.announcement :: rest.log, rest.result.map (m :: ·)⟩

end Mapping

/-- What settings are asked for. -/
structure SettingsRequest where
  /-- Statements with semicolons between them. -/
  mappings : Option Text
  connection : Option Text
  user : Option Text := none
  password : Option Text := none
  policy : Option Text := some "throw"
  maxRetries : Int := 10
  batchSize : Int := 3000
  retryDelay : Int := 60000

namespace SettingsRequest

/-- The settings with the given mappings, if the rest of the request is in
order. -/
def complete (r : SettingsRequest) (mappings : List Mapping) : Except SettingsError Settings := do
  let policy ← (ErrorPolicy.parse r.policy).mapError .config
  if r.connection.getD [] = [] then throw (.config .noConnection)
  if r.batchSize ≤ 0 then throw (.outOfRange .batchSize r.batchSize)
  if r.retryDelay ≤ 0 then throw (.outOfRange .retryDelay r.retryDelay)
  (Settings.create r.connection r.user r.password mappings policy r.maxRetries r.batchSize
    r.retryDelay).mapError .argument

/-- The settings that a request asks for. -/
def fulfil (r : SettingsRequest) : Outcome Settings :=
  let text := r.mappings.getD []
  if text = [] then ⟨[], .error (.config .noMappings)⟩
  else
    match Statement.segments text with
    | [] => ⟨[], .error (.config .noStatements)⟩
    | texts =>
      let built := Mapping.collect texts
      ⟨built.log, built.result.bind r.complete⟩

end SettingsRequest

end TableSink
