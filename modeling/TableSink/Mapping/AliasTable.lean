/-
Alias tables: which column of the table a source field becomes.

An alias table has a row for each source field, in the order in which the
fields came first. Two tables are equal when they answer alike for every
field; the order of the rows is not part of what a table says, so the hash
adds up the rows.
-/
import TableSink.Rows
import TableSink.Text.Literal

namespace TableSink

open Text

/-- The column that a source field becomes. -/
structure Alias where
  /-- The name of the column. -/
  name : Text
  /-- Is the column part of the key? -/
  isKey : Bool := false
  deriving DecidableEq, Hashable

/-- The literal of an alias. -/
def Alias.literal (a : Alias) : Text :=
  "FieldAlias(name=" ++ quote a.name ++ ", is_primary_key=" ++ boolLiteral a.isKey ++ ")"

/-- A row of an alias table: a source field and its column. -/
abbrev AliasRow := Text × Alias

/-- Rows with distinct source fields. -/
structure AliasTable where
  /-- The rows, in the order in which their fields came first. -/
  rows : List AliasRow
  /-- No field has two rows. -/
  distinct : (rows.map (·.1)).Nodup

namespace AliasTable

/-- The table without rows. -/
def empty : AliasTable where
  rows := []
  distinct := .nil

/-- The table of rows in which fields may repeat; the last row of a field
counts. -/
def ofRows (rows : List AliasRow) : AliasTable where
  rows := Rows.ofList rows
  distinct := Rows.nodup_ofList rows

/-- The column of a field. -/
def get? (t : AliasTable) (field : Text) : Option Alias :=
  t.rows.lookup field

/-- Has the field a row? -/
def contains (t : AliasTable) (field : Text) : Bool :=
  (t.get? field).isSome

/-- The fields, in the order of the rows. -/
def fields (t : AliasTable) : List Text :=
  t.rows.map (·.1)

/-- The number of rows. -/
def size (t : AliasTable) : Nat :=
  t.rows.length

/-- The rows in the order of their fields. -/
def sortedRows (t : AliasTable) : List AliasRow :=
  t.rows.mergeSort fun a b => a.1.le b.1

/-- The last row of a field counts. -/
theorem get?_ofRows (rows : List AliasRow) (field : Text) :
    (ofRows rows).get? field = rows.reverse.lookup field :=
  Rows.lookup_ofList rows field

/-! ## Equality -/

/-- Do two tables answer alike for every field? Tables of one size do when the
second has every row of the first. -/
def same (t u : AliasTable) : Bool :=
  t.size == u.size && t.rows.all fun (field, a) => u.get? field == some a

instance : BEq AliasTable := ⟨same⟩

/-- The hash of a table does not depend on the order of its rows. -/
def hashCode (t : AliasTable) : UInt64 :=
  t.rows.foldl (fun h row => h + hash row) 0

instance : Hashable AliasTable := ⟨hashCode⟩

/-! ## Writing -/

/-- The literal of a table. -/
def literal (t : AliasTable) : Text :=
  "AliasTable(" ++ rowsLiteral (t.rows.map fun (field, a) => (quote field, a.literal)) ++ ")"

end AliasTable

end TableSink
