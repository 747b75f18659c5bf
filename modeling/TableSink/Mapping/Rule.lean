/-
The rule on write modes and keys: to write over rows by their key, in a table
that is created on demand, the key has to be declared.
-/
import TableSink.Mapping.Basic

namespace TableSink.Mapping

/-- A mapping that breaks the rule, told by its table and its source. -/
structure Violation where
  table : Text
  source : Text
  deriving DecidableEq

/-- The wording of a violation. -/
def Violation.message (v : Violation) : Text :=
  "In order to use UPSERT mode and table AUTO-CREATE you need to define "
    ++ "Primary Keys in your export mappings (PK clause)."
    ++ "\n  Table: " ++ v.table
    ++ "\n  Source: " ++ v.source

/-- Whether a mapping breaks the rule: the table of columns of a created table
that is written by key holds the default key. -/
def violation? (m : Mapping) : Option Violation :=
  if m.mode = .upsert ∧ m.autoCreate ∧ m.hasDefaultKey then some ⟨m.table, m.source⟩ else none

end TableSink.Mapping
