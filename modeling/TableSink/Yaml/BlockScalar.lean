/-
Block scalars: lines that are indented under a header.

The header says whether lines are kept or folded, what becomes of the breaks at
the end, and perhaps how far the lines are indented; where it does not, the
first line that is not blank does. Folding joins two lines by a space when
neither starts with a space.
-/
import TableSink.Yaml.Cursor

namespace TableSink.Yaml.BlockScalar

/-- What becomes of the line breaks at the end: all but the first are dropped,
all are, or none. -/
inductive Chomp where
  | clip
  | strip
  | keep
  deriving DecidableEq

/-- Reads the mark for the breaks at the end. -/
def chomp? (c : Char) : Option Chomp :=
  if c = '+' then some .keep else if c = '-' then some .strip else none

/-- Reads the digit for the indentation, which is not zero. -/
def indentDigit? (c : Cursor) : Except Error (Option Nat × Cursor) :=
  let ch := c.peek
  if ch = '0' then .error (c.fail .blockHeader)
  else if ch.isDigit then .ok (some (ch.toNat - '0'.toNat), c.advance)
  else .ok (none, c)

/-- Reads the two marks of a header, in either order. -/
def marks (c : Cursor) : Except Error (Chomp × Option Nat × Cursor) :=
  match chomp? c.peek with
  | some chomp => (indentDigit? c.advance).map fun (digit, c) => (chomp, digit, c)
  | none => do
    let (digit, c) ← indentDigit? c
    match digit, chomp? c.peek with
    | some _, some chomp => return (chomp, digit, c.advance)
    | _, _ => return (.clip, digit, c)

/-- Reads the header, with its comment, to the end of its line. -/
def header (c : Cursor) : Except Error (Chomp × Option Nat × Cursor) := do
  let (chomp, digit, c) ← marks c
  if !isSpaceOrBreak c.peek then throw (c.fail .blockHeader)
  let c := c.skipWhile (· == ' ')
  let c := if c.peek = '#' then c.skipWhile (!isLineEnd ·) else c
  match c.takeBreak? with
  | some (_, c) => return (chomp, digit, c)
  | none => if c.rest.isEmpty then return (chomp, digit, c) else throw (c.fail .blockHeader)

/-- What stands before the first line that is not blank. -/
structure Lead where
  breaks : List Char
  /-- The columns of the first line, where it is blank. -/
  first : Option Nat
  /-- The widest line. -/
  widest : Nat
  after : Cursor

/-- Passes blank lines and the indentation after them. -/
def lead : Nat → Cursor → Option Nat → Nat → Lead
  | 0, c, first, widest => ⟨[], first, widest, c⟩
  | fuel + 1, c, first, widest =>
    if c.peek = ' ' then
      let c := c.advance
      lead fuel c first (max widest c.column)
    else
      match c.takeBreak? with
      | none => ⟨[], first, widest, c⟩
      | some (b, after) =>
        let l := lead fuel after (first.or (some c.column)) widest
        { l with breaks := b :: l.breaks }

/-- Passes the indentation of a line, as far as it goes. -/
def passIndent (indent : Nat) (c : Cursor) : Cursor :=
  c.advanceBy ((c.rest.take (indent - c.column)).takeWhile (· == ' ')).length

/-- The breaks of blank lines, and the place after the indentation that
follows. -/
def breaks (indent : Nat) : Nat → Cursor → List Char × Cursor
  | 0, c => ([], c)
  | fuel + 1, c =>
    let c := passIndent indent c
    match c.takeBreak? with
    | none => ([], c)
    | some (b, c) =>
      let (more, c) := breaks indent fuel c
      (b :: more, c)

/-- The lines of a block scalar, up to the last one: their text, the break
after the last line and the breaks after that. -/
structure Body where
  text : List Char
  lastBreak : List Char
  trailing : List Char
  after : Cursor

/-- The lines from here on. `before` are the breaks of blank lines before the
next line; `atMargin` says that the scalar need not be indented, so that a mark
that separates documents ends it. -/
def body (folded atMargin : Bool) (indent : Nat) : Nat → List Char → Cursor → Body
  | 0, before, c => ⟨[], [], before, c⟩
  | fuel + 1, before, c =>
    if c.column ≠ indent ∨ c.rest.isEmpty then ⟨[], [], before, c⟩
    else
      let (line, after) := c.takeWhile (!isLineEnd ·)
      let (ended, after) := match after.takeBreak? with
        | some (b, after) => ([b], after)
        | none => ([], after)
      let (blank, after) := breaks indent (after.rest.length + 1) after
      let here := before ++ line
      let lineStart := atMargin && after.column == 0
      let after := if lineStart then after.lookForMark else after
      if (lineStart && after.atDocumentMark) || after.column ≠ indent || after.rest.isEmpty then
        ⟨here, ended, blank, after⟩
      else
        let joined :=
          if folded ∧ ended = ['\n'] ∧ !isSpace c.peek ∧ !isSpace after.peek then
            if blank.isEmpty then [' '] else []
          else ended
        let rest := body folded atMargin indent fuel blank after
        { rest with text := here ++ joined ++ rest.text }

/-- The text of a block scalar. -/
def Body.chomped (b : Body) : Chomp → List Char
  | .clip => b.text ++ b.lastBreak
  | .strip => b.text
  | .keep => b.text ++ b.lastBreak ++ b.trailing

/-- The block scalar that starts here, under a parent that is indented by
`parent` columns, or not at all where that is negative. -/
def scan (parent : Int) (c : Cursor) : Except Error (List Char × Cursor) := do
  let folded := c.peek = '>'
  let (chomp, digit, c) ← header c.advance
  let least := (parent + 1).toNat
  match digit with
  | some digit =>
    let least := max least 1
    let indent := least + digit - 1
    let (blank, c) := breaks indent (c.rest.length + 1) c
    let b := body folded false indent (c.rest.length + 1) blank c
    return (b.chomped chomp, b.after)
  | none =>
    let l := lead (c.rest.length + 1) c none 0
    if 0 < l.first.getD 0 ∧ l.first.getD 0 < l.widest then
      throw (l.after.fail .blockIndent)
    let indent := max least l.widest
    let b := body folded (least == 0) indent (l.after.rest.length + 1) l.breaks l.after
    return (b.chomped chomp, b.after)

end TableSink.Yaml.BlockScalar
