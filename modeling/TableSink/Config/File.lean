/-
Configurations in files.

A file holds one document, which a reader finds in its bytes. A file without a
document, or with a null, is an empty map.
-/
import TableSink.Config.Basic
import TableSink.File.Tree
import TableSink.Yaml.Document

namespace TableSink

/-- Why a file gives no configuration. -/
inductive LoadError where
  | missing (path : String)
  | directory (path : String)
  | nameTooLong (path : String)
  | document (path : String) (cause : Yaml.Fault)
  | notMapping (path kind : String)

/-- The wording of a failure. -/
def LoadError.message : LoadError → Text
  | .missing path => "YAML file not found: " ++ path
  | .directory path => "[Errno 21] Is a directory: " ++ Text.quote path
  | .nameTooLong path => "[Errno 36] File name too long: " ++ Text.quote path
  | .document path (.malformed (some words)) =>
    "Sink config " ++ path ++ " is not valid YAML: " ++ words
  | .document path (.malformed none) => "Sink config " ++ path ++ " is not valid YAML"
  | .document _ (.undecodable cause) => cause.message
  | .document _ (.unfit cause) => cause.message
  | .notMapping path kind =>
    "Sink config " ++ path ++ " must contain a mapping at top level, got " ++ kind

namespace Config

/-- The document in a file. -/
def document (reader : Yaml.Reader) (path : String) : FileEntry → Except LoadError Yaml.Document
  | .missing => .error (.missing path)
  | .directory => .error (.directory path)
  | .tooLong => .error (.nameTooLong path)
  | .file content => (reader content).mapError (.document path)

/-- The value of the document in a file, as a reader tells it. -/
def readValueBy (reader : Yaml.Reader) (path : String) (entry : FileEntry) :
    Except LoadError Value := do
  match (← document reader path entry).value with
  | .null => return .map []
  | v => return v

/-- The configuration in a file, as a reader tells it. -/
def loadBy (reader : Yaml.Reader) (path : String) (entry : FileEntry) :
    Except LoadError Config := do
  let d ← document reader path entry
  match d.value with
  | .map _ | .orderedMap _ => return ⟨d.rows⟩
  | .null => return ⟨[]⟩
  | v => throw (.notMapping path v.kindName)

/-- The value of the document in a file. -/
def readValue : String → FileEntry → Except LoadError Value :=
  readValueBy Yaml.reader

/-- The configuration in a file. -/
def load : String → FileEntry → Except LoadError Config :=
  loadBy Yaml.reader

end Config

end TableSink
