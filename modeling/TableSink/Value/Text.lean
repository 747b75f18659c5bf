/-
Values as text.

The literal of a value shows what kind of value it is: texts stand in quotes.
The text of a value is the text itself where it is one, the written date where
it is one, and its literal otherwise.
-/
import TableSink.Value.Basic

namespace TableSink.Value

open Text Number

/-- How a byte is written in the given quotes: Latin characters as they are,
others by two hexadecimal digits. -/
def byteLiteral (quote : Char) (b : UInt8) : List Char :=
  let c := Char.ofNat b.toNat
  if c = backslash ∨ c = quote then [backslash, c]
  else if c = '\t' then [backslash, 't']
  else if c = '\n' then [backslash, 'n']
  else if c = '\r' then [backslash, 'r']
  else if 0x20 ≤ b.toNat ∧ b.toNat < 0x7F then [c]
  else backslash :: 'x' :: hexDigits 2 b.toNat

/-- The literal of bytes. -/
def bytesLiteral (data : List UInt8) : Text :=
  let q := chooseQuote (ofChars (data.map fun b => Char.ofNat b.toNat))
  ofChars ('b' :: q :: data.flatMap (byteLiteral q) ++ [q])

/-- How a collection is shown inside itself. -/
def insideLiteral : Shape → String
  | .list => "[...]"
  | .map => "\x7b...\x7d"
  | .orderedMap => "..."
  | .set => "set(...)"

mutual

/-- The literal of a value. -/
def literal : Value → Text
  | .null => missing
  | .bool b => boolLiteral b
  | .int n => toString n
  | .float x => valueStyle.text x
  | .text s => quote s
  | .list items => listLiteral (literals items)
  | .tuple items => tupleLiteral (literals items)
  | .map rows => rowsLiteral (rowLiterals rows)
  | .orderedMap rows => orderedLiteral (rowLiterals rows)
  | .set members => setLiteral (literals members)
  | .inside shape => insideLiteral shape
  | .date d => d.literal
  | .dateTime t => t.literal
  | .bytes data => bytesLiteral data

/-- The literals of the items of a list. -/
def literals : List Value → List Text
  | [] => []
  | v :: vs => literal v :: literals vs

/-- The literals of the rows of a map. -/
def rowLiterals : List (Value × Value) → List (Text × Text)
  | [] => []
  | (k, v) :: rows => (literal k, literal v) :: rowLiterals rows

end

/-- The text of a value. -/
def toText : Value → Text
  | .text s => s
  | .date d => d.text
  | .dateTime t => t.text
  | v => v.literal

end TableSink.Value
