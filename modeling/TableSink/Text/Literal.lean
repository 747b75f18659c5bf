/-
The parts of a literal: how truth values, missing values and sequences are
written on one line.
-/
import TableSink.Text.Quoted

namespace TableSink.Text

/-- A truth value. -/
def boolLiteral (b : Bool) : String :=
  if b then "True" else "False"

/-- The word for a value that is missing. -/
def missing : String := "None"

/-- A text in quotes, or the word for a missing one. -/
def optionLiteral (s : Option Text) : Text :=
  (s.map quote).getD missing

/-- Items with a comma and a space between them. -/
def commaSeparated (items : List Text) : Text :=
  (ofString ", ").intercalate items

/-- A fixed sequence stands in round brackets; one item alone is followed by a
comma. -/
def tupleLiteral : List Text → Text
  | [item] => "(" ++ item ++ ",)"
  | items => "(" ++ commaSeparated items ++ ")"

/-- A list stands in square brackets. -/
def listLiteral (items : List Text) : Text :=
  "[" ++ commaSeparated items ++ "]"

/-- Rows stand in braces, with a colon between key and value. -/
def rowsLiteral (rows : List (Text × Text)) : Text :=
  "\x7b" ++ commaSeparated (rows.map fun (k, v) => k ++ ": " ++ v) ++ "\x7d"

/-- Rows whose order counts stand as pairs in a list, under their name. -/
def orderedLiteral (rows : List (Text × Text)) : Text :=
  "ordereddict("
    ++ (if rows.isEmpty then []
      else listLiteral (rows.map fun (k, v) => tupleLiteral [k, v])) ++ ")"

/-- A set stands in braces; the empty one is called by its name. -/
def setLiteral (members : List Text) : Text :=
  if members.isEmpty then "set()" else "\x7b" ++ commaSeparated members ++ "\x7d"

end TableSink.Text
