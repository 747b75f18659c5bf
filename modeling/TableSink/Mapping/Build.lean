/-
The mapping that a statement asks for.

Declared keys come first in the alias table, then the selected fields, which
may rename a key; last, where a table is to be created and no key is declared,
the reserved columns. A column is part of the key when its name is declared as
key, whichever field it comes from.
-/
import TableSink.Mapping.Basic
import TableSink.Statement.Basic

namespace TableSink

/-- The capital of a letter of the Latin alphabet, the dotless i and the long
s among them. Other characters are kept: their capitals are no letters of the
Latin alphabet, or several at once that no write mode has in a row. -/
def capitalLetter (c : Char) : Char :=
  if c = 'ı' then 'I' else if c = 'ſ' then 'S' else c.toUpper

/-- The write mode that a word names; every word but UPSERT, in capital or
small letters, names the mode that adds rows. -/
def WriteMode.ofWord (word : Text) : WriteMode :=
  if word.map (·.map capitalLetter) = "UPSERT" then .upsert else .insert

namespace Mapping

/-- The rows of the alias table, in which fields may repeat and the last row
of a field counts. -/
def aliasRows (s : Statement) : List AliasRow :=
  s.keys.map (fun key => (key, ⟨key, true⟩))
    ++ s.fields.map (fun (field, column) => (field, ⟨column, s.keys.contains column⟩))
    ++ (if s.autoCreate && s.keys.isEmpty then
        reservedColumns.map fun column => (column, ⟨column, true⟩)
      else [])

/-- The mapping of a statement. -/
def ofStatement (s : Statement) : Mapping where
  table := s.target
  source := s.source
  allFields := s.selectsAll
  mode := .ofWord s.mode
  aliases := .ofRows (aliasRows s)
  autoCreate := s.autoCreate
  autoEvolve := s.autoEvolve
  capitalize := s.capitalize
  ignored := s.ignored

/-- What is logged when a mapping was built. -/
def announcement (m : Mapping) : Text :=
  "Creating field mapping:\n" ++ m.text

end Mapping

end TableSink
