/-
A place in the text of a document.

The place knows the text that is left and where it stands: how many characters
were passed, the line, and the column in it. A line feed begins a new line. The
byte order mark takes no column. Where only the start of a text can be read,
the place also knows what is wrong with the rest; whoever comes to the end of
the start, or looks past it, meets that fault. So the place knows as well how
far it was looked ahead.
-/
import TableSink.Yaml.Error

namespace TableSink.Yaml

/-! ## Kinds of characters -/

/-- What is seen past the end of the text. No text holds this character. -/
def endOfText : Char := '\x00'

/-- Line breaks. -/
def isBreak (c : Char) : Bool :=
  c == '\n' || c == '\r' || c == '\u0085' || c == '\u2028' || c == '\u2029'

/-- Where a line ends: at a break, or at the end of the text. -/
def isLineEnd (c : Char) : Bool :=
  c == endOfText || isBreak c

/-- Spaces and tabs. -/
def isSpace (c : Char) : Bool :=
  c == ' ' || c == '\t'

/-- Where a word ends. -/
def isGap (c : Char) : Bool :=
  isSpace c || isLineEnd c

/-- Breaks, spaces and the end of the text: what has to follow tags and
directives. -/
def isSpaceOrBreak (c : Char) : Bool :=
  c == endOfText || c == ' ' || isBreak c

/-! ## Places -/

/-- A place in a text. -/
structure Cursor where
  /-- The text that is left. -/
  rest : List Char
  /-- What is wrong with what follows the text. -/
  fault : Option Error := none
  /-- How many of the next characters were looked at; the next one always is. -/
  seen : Nat := 1
  /-- How many characters were passed. -/
  index : Nat := 0
  line : Nat := 0
  column : Nat := 0

namespace Cursor

/-- The character at the place. -/
def peek (c : Cursor) : Char :=
  c.rest.headD endOfText

/-- The character some places further on. -/
def peekAt (c : Cursor) (n : Nat) : Char :=
  (c.rest.drop n).headD endOfText

/-- The place, when the next `n` characters are looked at. -/
def lookAhead (c : Cursor) (n : Nat) : Cursor :=
  { c with seen := max c.seen n }

/-- The fault that was met: the text ends before the last character that was
looked at, and cannot be read any further. -/
def met? (c : Cursor) : Option Error :=
  if (c.rest.drop (c.seen - 1)).isEmpty then c.fault else none

/-- What is wrong at the place: the given cause, unless a fault was met before
it could be told. -/
def fail (c : Cursor) (cause : Malformed) : Error :=
  c.met?.getD (.malformed cause)

/-- The place after the next character. -/
def advance (c : Cursor) : Cursor :=
  match c.rest with
  | [] => c
  | ch :: rest =>
    let c := { c with rest, seen := max 1 (c.seen - 1), index := c.index + 1 }
    if ch = '\n' then { c with line := c.line + 1, column := 0 }
    else if ch = '\uFEFF' then c
    else { c with column := c.column + 1 }

/-- The place after the next `n` characters. -/
def advanceBy (c : Cursor) : Nat → Cursor
  | 0 => c
  | n + 1 => c.advance.advanceBy n

/-- The characters of a kind at the place, and the place after them. -/
def takeWhile (c : Cursor) (p : Char → Bool) : List Char × Cursor :=
  let s := c.rest.takeWhile p
  (s, c.advanceBy s.length)

/-- The place after the characters of a kind. -/
def skipWhile (c : Cursor) (p : Char → Bool) : Cursor :=
  (c.takeWhile p).2

/-- Takes a line break. It stands for a line feed, but for the two separators
of Unicode, which stand for themselves. -/
def takeBreak? (c : Cursor) : Option (Char × Cursor) :=
  match c.rest with
  | [] => none
  | '\r' :: '\n' :: _ => some ('\n', c.advanceBy 2)
  | ch :: _ =>
    if ch = '\n' ∨ ch = '\r' ∨ ch = '\u0085' then some ('\n', c.advance)
    else if isBreak ch then some (ch, c.advance)
    else none

/-- Do three given characters stand here, and a gap after them? -/
def atMark (c : Cursor) (ch : Char) : Bool :=
  c.peek == ch && c.peekAt 1 == ch && c.peekAt 2 == ch && isGap (c.peekAt 3)

/-- Does a mark stand here that separates documents? -/
def atDocumentMark (c : Cursor) : Bool :=
  c.atMark '-' || c.atMark '.'

/-- The place, when it is looked at whether a mark stands here that separates
documents. What follows is only looked at after the three characters of one. -/
def lookForMark (c : Cursor) : Cursor :=
  let s := c.rest.take 3
  c.lookAhead (if s == ['-', '-', '-'] || s == ['.', '.', '.'] then 4 else 3)

end Cursor

end TableSink.Yaml
