/-
Export statements and their parts.

    (INSERT | UPSERT) INTO table
    SELECT (* | field [AS alias]), …
    FROM source
    [IGNORE field, …] [PK field, …] [AUTOCREATE] [AUTOEVOLVE] [CAPITALIZE]

A statement is put together from its write mode, its table, its select items,
its source and its clauses; the clauses stand in any order.
-/
import TableSink.Text.Basic

namespace TableSink

/-! ## Parts -/

/-- One entry of a select list: everything, or a field with the name that it
takes in the table. -/
inductive SelectItem where
  | all
  | field (name column : Text)
  deriving DecidableEq

namespace SelectItem

/-- Is the item the star? -/
def isAll : SelectItem → Bool
  | .all => true
  | .field .. => false

/-- The field and its name in the table; none for the star. -/
def field? : SelectItem → Option (Text × Text)
  | .all => none
  | .field name column => some (name, column)

end SelectItem

/-- What a clause is about. A statement has at most one clause of a kind. -/
inductive ClauseKind where
  | ignored
  | keys
  | autoCreate
  | autoEvolve
  | capitalize
  deriving DecidableEq

/-- A clause after the source of a statement. -/
inductive Clause where
  | ignored (names : List Text)
  | keys (names : List Text)
  | autoCreate
  | autoEvolve
  | capitalize
  deriving DecidableEq

namespace Clause

/-- The kind of a clause. -/
def kind : Clause → ClauseKind
  | .ignored _ => .ignored
  | .keys _ => .keys
  | .autoCreate => .autoCreate
  | .autoEvolve => .autoEvolve
  | .capitalize => .capitalize

/-- The names that the clause tells to leave out. -/
def ignoredNames : Clause → List Text
  | .ignored names => names
  | _ => []

/-- The names that the clause declares as key. -/
def keyNames : Clause → List Text
  | .keys names => names
  | _ => []

end Clause

/-! ## Statements -/

/-- What an export statement says. -/
structure Statement where
  /-- The table that is written. -/
  target : Text
  /-- The stream that is read. -/
  source : Text
  /-- Was the star selected? -/
  selectsAll : Bool
  /-- The selected fields with their names in the table, as they are listed. -/
  fields : List (Text × Text)
  /-- The names declared as key. -/
  keys : List Text
  /-- The fields to leave out. -/
  ignored : List Text := []
  /-- The word that names the write mode. -/
  mode : Text := "INSERT"
  /-- Create the table where it is missing. -/
  autoCreate : Bool := false
  /-- Add missing columns to the table. -/
  autoEvolve : Bool := false
  /-- Write names in capital letters. -/
  capitalize : Bool := false
  deriving DecidableEq

namespace Statement

/-- The statement with the given parts. -/
def ofParts (mode target : Text) (items : List SelectItem) (source : Text)
    (clauses : List Clause) : Statement where
  target := target
  source := source
  selectsAll := items.any SelectItem.isAll
  fields := items.filterMap SelectItem.field?
  keys := clauses.flatMap Clause.keyNames
  ignored := clauses.flatMap Clause.ignoredNames
  mode := mode
  autoCreate := clauses.any (·.kind = .autoCreate)
  autoEvolve := clauses.any (·.kind = .autoEvolve)
  capitalize := clauses.any (·.kind = .capitalize)

end Statement

end TableSink
