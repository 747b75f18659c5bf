/-
Mappings: how the records of a source stream are written to a table.
-/
import TableSink.Mapping.AliasTable

namespace TableSink

open Text

/-- How records are written: every one as a new row, or over the row that has
its key. -/
inductive WriteMode where
  | insert
  | upsert
  deriving DecidableEq, Hashable

namespace WriteMode

/-- The name of a write mode. -/
def name : WriteMode → String
  | .insert => "INSERT"
  | .upsert => "UPSERT"

/-- The literal of a write mode. -/
def literal : WriteMode → String
  | .insert => "<WriteMode.INSERT: 'insert'>"
  | .upsert => "<WriteMode.UPSERT: 'upsert'>"

end WriteMode

/-! ## Reserved columns -/

/-- The column for the stream that a record came from. -/
def topicColumn : String := "__connect_topic"

/-- The column for the part of the stream. -/
def partitionColumn : String := "__connect_partition"

/-- The column for the place in that part. -/
def offsetColumn : String := "__connect_offset"

/-- The columns that are the key of a table that is created without one. -/
def reservedColumns : List Text :=
  [topicColumn, partitionColumn, offsetColumn]

/-! ## Mappings -/

/-- How the records of a source are written to a table. -/
structure Mapping where
  /-- The table that is written. -/
  table : Text
  /-- The stream that is read. -/
  source : Text
  /-- Are all fields of a record written? -/
  allFields : Bool := true
  /-- How records are written. -/
  mode : WriteMode := .insert
  /-- The columns of the fields that are named. -/
  aliases : AliasTable := .empty
  /-- Create the table where it is missing. -/
  autoCreate : Bool := false
  /-- Add missing columns to the table. -/
  autoEvolve : Bool := false
  /-- Write names in capital letters. -/
  capitalize : Bool := false
  /-- The fields that are left out. -/
  ignored : List Text := []
  deriving BEq, Hashable

namespace Mapping

/-- The names of the key columns, each once and in ascending order. -/
def keys (m : Mapping) : List Text :=
  sort ((m.aliases.rows.filter (·.2.isKey)).map (·.2.name)).eraseDups

/-- Does the table of columns hold the reserved column that stands for the
default key? -/
def hasDefaultKey (m : Mapping) : Bool :=
  m.aliases.contains partitionColumn

/-! ## Writing -/

/-- One column in the text of a mapping. -/
def columnText (row : AliasRow) : Text :=
  row.1 ++ "->" ++ row.2.name ++ (if row.2.isKey then " (pk)" else "")

/-- The text of a mapping, with its columns in the order of their fields. -/
def text (m : Mapping) : Text :=
  "FieldsMapping\x7btable='" ++ m.table ++ "', source='" ++ m.source
    ++ "', all_fields=" ++ boolLiteral m.allFields
    ++ ", mode=" ++ m.mode.name
    ++ ", auto_create=" ++ boolLiteral m.autoCreate
    ++ ", auto_evolve=" ++ boolLiteral m.autoEvolve
    ++ ", capitalize=" ++ boolLiteral m.capitalize
    ++ ", fields=" ++ listLiteral (m.aliases.sortedRows.map columnText)
    ++ ", ignored=" ++ listLiteral m.ignored ++ "\x7d"

/-- The literal of a mapping, with its columns in the order of the table. -/
def literal (m : Mapping) : Text :=
  "FieldsMapping(table_name=" ++ quote m.table
    ++ ", source=" ++ quote m.source
    ++ ", include_all_fields=" ++ boolLiteral m.allFields
    ++ ", write_mode=" ++ m.mode.literal
    ++ ", mappings=" ++ m.aliases.literal
    ++ ", auto_create_table=" ++ boolLiteral m.autoCreate
    ++ ", auto_evolve_table=" ++ boolLiteral m.autoEvolve
    ++ ", capitalize_names=" ++ boolLiteral m.capitalize
    ++ ", ignored_fields=" ++ tupleLiteral (m.ignored.map quote) ++ ")"

end Mapping

end TableSink
