/-
Readers of documents.

Which document bytes hold is not for a sink to say; it is told by a reader. Only
its answers matter here: a document, or what is wrong with the bytes.
-/
import TableSink.Text.Utf8
import TableSink.Value.Basic

namespace TableSink.Yaml

/-- What kind of mistake something is. Only a value that is out of place is
reported as the fault of a document. -/
inductive Mistake where
  | value
  | index
  | lookup
  | type
  | overflow
  | assertion
  deriving DecidableEq

/-- A mistake, with what is said about it. -/
structure Slip where
  mistake : Mistake
  message : Text
  deriving DecidableEq

/-- Why a reader gives no document. -/
inductive Fault where
  /-- The bytes are no text. -/
  | undecodable (cause : Text.Utf8.DecodeError)
  /-- The text breaks a rule of the format. A reader that can tell which has words
  for it. -/
  | malformed (words : Option Text)
  /-- Something in the text is not what it is said to be. -/
  | unfit (cause : Slip)

/-- A document: its value as a whole and, where that is a mapping, the rows of
this mapping, each by itself. A document that is not there has the value null. -/
structure Document where
  value : Value
  rows : List (Value × Value) := []

/-- What documents are read by. -/
abbrev Reader := List UInt8 → Except Fault Document

/-- The reader has an answer for the bytes: a document, or a fault that is
reported as the document's. -/
def Reader.Answers (reader : Reader) (content : List UInt8) : Prop :=
  ∀ cause, reader content = .error (.unfit cause) → cause.mistake = .value

end TableSink.Yaml
