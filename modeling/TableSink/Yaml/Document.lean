/-
The meaning of bytes in the YAML format.

What can be read of the bytes is cut into tokens, these are read into a graph,
and the graph is given its meaning. Bytes that hold no document have none.
-/
import TableSink.Yaml.Meaning
import TableSink.Yaml.Source

namespace TableSink.Yaml

/-- What bytes stand for. -/
def read (bytes : List UInt8) : Except Error (Option Meaning) := do
  let source := Source.ofBytes bytes
  match ← Graph.ofTokens? (Tokens.ofText source.text source.fault) with
  | none => return none
  | some document => return some (← Meaning.ofDocument document)

/-- What a document stands for, as a reader tells it. -/
def Meaning.document (m : Meaning) : Document := ⟨m.value, m.rows?.getD []⟩

/-- The reader that goes by these meanings. -/
@[irreducible]
def reader : Reader := fun bytes =>
  match read bytes with
  | .error e => .error e.fault
  | .ok none => .ok ⟨.null, []⟩
  | .ok (some m) => .ok m.document

end TableSink.Yaml
