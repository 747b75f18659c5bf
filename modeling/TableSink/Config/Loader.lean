/-
Readers of documents that are handed in.

A reader is only taken if it offers to load documents, by something that can be
called.
-/

namespace TableSink.Config

/-- What a reader offers for loading. -/
inductive LoadOffer where
  | none
  | notCallable
  | callable
  deriving DecidableEq

/-- Why a reader is refused. -/
inductive LoaderError where
  | missing
  | notCallable
  deriving DecidableEq

/-- The wording of a refusal. -/
def LoaderError.message : LoaderError → String
  | .missing => "YAML object missing required attribute: load"
  | .notCallable => "YAML.load is not callable"

/-- Takes a reader by what it offers. -/
def LoadOffer.check : LoadOffer → Except LoaderError Unit
  | .none => .error .missing
  | .notCallable => .error .notCallable
  | .callable => .ok ()

end TableSink.Config
