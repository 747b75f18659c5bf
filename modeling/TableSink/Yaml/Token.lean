/-
The tokens of a document.
-/
import TableSink.Text.Basic
import TableSink.Yaml.Version

namespace TableSink.Yaml

/-- A tag as it is written: a handle that stands for the start of the tag, and
the rest of the tag. -/
structure TagText where
  handle : Option String
  suffix : String
  deriving DecidableEq

/-- A line that stands before a document. -/
inductive Directive where
  | version (d : Declared)
  | handle (name stem : String)
  | other
  deriving DecidableEq

/-- One token of a document. The start and the end of block collections, which
the text shows by indentation alone, are tokens of their own. -/
inductive Token where
  | directive (d : Directive)
  | documentStart
  /-- The end of a document; `followed` says whether more stands on its line. -/
  | documentEnd (followed : Bool)
  | textEnd
  | blockSequenceStart
  | blockMappingStart
  | blockEnd
  | flowSequenceStart
  | flowSequenceEnd
  | flowMappingStart
  | flowMappingEnd
  | flowEntry
  | blockEntry
  | key
  | value
  | reference (name : String)
  | anchor (name : String)
  | tag (t : TagText)
  | scalar (text : Text) (plain : Bool)
  deriving DecidableEq

end TableSink.Yaml
