/-
Accesses to an alias table that is shared.

A shared table is built from rows that its owner may change later. The table
answers what is asked of it, refuses to be changed, and does not follow the
changes of the rows that it was built from.
-/
import TableSink.Mapping.AliasTable

namespace TableSink

open Text

/-- What can be asked of a shared table, or done to it and to the rows it was
built from. -/
inductive Access where
  | lookup (field : Text)
  | get (field : Text)
  | contains (field : Text)
  | size
  | fields
  | rows
  | literal
  | equalsRows (rows : List AliasRow)
  | equalsTable (rows : List AliasRow)
  | copy
  | assign (field : Text) (a : Alias)
  | delete (field : Text)
  | setAttribute (name : Text)
  | changeOrigin (field : Text) (a : Alias)

/-- Why an access fails. -/
inductive AccessError where
  | missing (field : Text)
  | assignment
  | deletion
  | readOnly
  deriving DecidableEq

/-- The wording of a failed access. -/
def AccessError.message : AccessError → Text
  | .missing field => quote field
  | .assignment => "'AliasTable' object does not support item assignment"
  | .deletion => "'AliasTable' object does not support item deletion"
  | .readOnly => "AliasTable is read-only"

/-- The answer to an access. -/
inductive Reply where
  | column (a : Option Alias)
  | truth (b : Bool)
  | size (n : Nat)
  | fields (names : List Text)
  | rows (rows : List AliasRow)
  | text (s : Text)
  | comparison (equal sameHash : Bool)
  | failed (e : AccessError)
  deriving DecidableEq

/-- A shared table with the rows that it was built from, as they are now. -/
structure SharedTable where
  origin : List AliasRow
  table : AliasTable

namespace SharedTable

/-- The table of the given rows, shared. -/
def ofRows (rows : List AliasRow) : SharedTable where
  origin := Rows.ofList rows
  table := .ofRows rows

/-- One access: the state after it, and its answer. -/
def access (s : SharedTable) : Access → SharedTable × Reply
  | .lookup field =>
    match s.table.get? field with
    | some a => (s, .column (some a))
    | none => (s, .failed (.missing field))
  | .get field => (s, .column (s.table.get? field))
  | .contains field => (s, .truth (s.table.contains field))
  | .size => (s, .size s.table.size)
  | .fields => (s, .fields s.table.fields)
  | .rows => (s, .rows s.table.rows)
  | .literal => (s, .text s.table.literal)
  | .equalsRows rows => (s, .truth (s.table == .ofRows rows))
  | .equalsTable rows =>
    let other := AliasTable.ofRows rows
    (s, .comparison (s.table == other) (hash s.table == hash other))
  | .copy => (s, .rows (AliasTable.ofRows s.table.rows).rows)
  | .assign _ _ => (s, .failed .assignment)
  | .delete _ => (s, .failed .deletion)
  | .setAttribute _ => (s, .failed .readOnly)
  | .changeOrigin field a => ({ s with origin := Rows.put s.origin field a }, .rows s.table.rows)

/-- The answers to a run of accesses. -/
def run (s : SharedTable) : List Access → List Reply
  | [] => []
  | a :: as => (s.access a).2 :: run (s.access a).1 as

end SharedTable

end TableSink
