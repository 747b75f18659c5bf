/-
Quoted text.

A quoted text shows a text on one line. It stands between single quotes, or
between double quotes where it holds a single quote and no double one. The
backslash, the quote in use and the code points that are not printable are
escaped: tab, line feed and carriage return by a letter, the others by their
code point in two, four or eight hexadecimal digits.
-/
import TableSink.Text.Basic
import TableSink.Text.Hex
import TableSink.Text.Printable

namespace TableSink.Text

/-- The quote in use unless the text holds it and not the other one. -/
def singleQuote : Char := '\x27'

/-- The other quote. -/
def doubleQuote : Char := '\x22'

/-- The character that opens an escape. -/
def backslash : Char := '\x5C'

/-- The escape of the code point of a number. -/
def escapeCode (n : Nat) : List Char :=
  if n < 0x100 then backslash :: 'x' :: hexDigits 2 n
  else if n < 0x10000 then backslash :: 'u' :: hexDigits 4 n
  else backslash :: 'U' :: hexDigits 8 n

/-- How a character is written between the given quotes. -/
def escapeChar (quote c : Char) : List Char :=
  if c = backslash ∨ c = quote then [backslash, c]
  else if c = '\t' then [backslash, 't']
  else if c = '\n' then [backslash, 'n']
  else if c = '\r' then [backslash, 'r']
  else if isPrintable c then [c]
  else escapeCode c.toNat

/-- How a code point is written between the given quotes. A surrogate is not
printable. -/
def escapePoint (quote : Char) : CodePoint → List Char
  | .char c => escapeChar quote c
  | .surrogate n => escapeCode (CodePoint.surrogate n).toNat

/-- The quote to write a text with. -/
def chooseQuote (s : Text) : Char :=
  if .char singleQuote ∈ s ∧ .char doubleQuote ∉ s then doubleQuote else singleQuote

/-- The text in quotes. -/
def quote (s : Text) : Text :=
  let q := chooseQuote s
  ofChars (q :: s.flatMap (escapePoint q) ++ [q])

end TableSink.Text
