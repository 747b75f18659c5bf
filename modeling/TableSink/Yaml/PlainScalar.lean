/-
Plain scalars: text without quotes.

A plain scalar ends at a comment, at a colon before a gap and, between
brackets, at the marks that structure a collection; in the first version of the
format, the question mark is among those. It goes on over line
breaks as long as its lines are indented. A single break counts as a space; of
several, all but the first are kept.
-/
import TableSink.Yaml.Cursor
import TableSink.Yaml.Version

namespace TableSink.Yaml.PlainScalar

/-- The marks that end a plain scalar between brackets. -/
def flowMarks : Version → List Char
  | .v11 => [',', ':', '?', '[', ']', '\x7B', '\x7D']
  | .v12 => [',', ':', '[', ']', '\x7B', '\x7D']

/-- What surrounds a plain scalar. -/
structure Setting where
  version : Version
  /-- Does it stand between brackets? -/
  flow : Bool
  /-- The least indentation of its lines in block structure. -/
  indent : Int

/-- The word at the start of a text. -/
def word (s : Setting) : List Char → List Char
  | [] => []
  | ch :: rest =>
    if ch = ':' ∧ !isGap (rest.headD endOfText) then ch :: word s rest
    else if isGap ch ∨ ch = ':' ∨ (s.flow ∧ ch ∈ flowMarks s.version) then []
    else ch :: word s rest

/-- What stands between two words: the text it counts for, or none where a
mark that separates documents follows. -/
structure Gap where
  text : Option (List Char)
  after : Cursor
  /-- Was there a line break? -/
  broken : Bool

/-- The breaks of further lines. Spaces at the start of a line are dropped. -/
def furtherBreaks : Nat → Cursor → Option (List Char) × Cursor
  | 0, c => (some [], c)
  | fuel + 1, c =>
    if c.peek = ' ' then furtherBreaks fuel c.advance
    else
      match c.takeBreak? with
      | none => (some [], c)
      | some (b, c) =>
        let c := c.lookForMark
        if c.atDocumentMark then (none, c)
        else
          let (more, c) := furtherBreaks fuel c
          (more.map (b :: ·), c)

/-- What lines fold to: the first break to a space, unless other breaks
follow. -/
def fold (first : Char) (more : List Char) : List Char :=
  (if first ≠ '\n' then [first] else if more.isEmpty then [' '] else []) ++ more

/-- The gap after a word. -/
def gap (c : Cursor) : Gap :=
  let (spaces, c) := c.takeWhile (· == ' ')
  match c.takeBreak? with
  | none => ⟨some spaces, c, false⟩
  | some (b, c) =>
    let c := c.lookForMark
    if c.atDocumentMark then ⟨none, c, true⟩
    else
      let (more, c) := furtherBreaks (c.rest.length + 1) c
      ⟨more.map (fold b), c, true⟩

/-- The place after a word. A colon only ends a word before a gap, so what
follows the colon was looked at. -/
def afterWord (c : Cursor) (word : List Char) : Cursor :=
  let c := c.advanceBy word.length
  if c.peek = ':' then c.lookAhead 2 else c

/-- A plain scalar with the place after it. -/
structure Scan where
  text : List Char
  after : Cursor
  /-- Was a line break the last thing that was passed? -/
  broken : Bool

/-- The words from here on. In block structure, a line that is not indented
enough ends them. -/
def words (s : Setting) : Nat → Cursor → Bool → Scan
  | 0, c, broken => ⟨[], c, broken⟩
  | fuel + 1, c, broken =>
    let w := if c.peek = '#' then [] else word s c.rest
    let c := afterWord c w
    if w.isEmpty then ⟨[], c, broken⟩
    else
      let g := gap c
      match g.text with
      | none | some [] => ⟨w, g.after, g.broken⟩
      | some space =>
        if !s.flow ∧ (g.after.column : Int) < s.indent then ⟨w, g.after, g.broken⟩
        else
          let next := words s fuel g.after g.broken
          ⟨if next.text.isEmpty then w else w ++ space ++ next.text, next.after, next.broken⟩

/-- The plain scalar that starts here. -/
def scan (s : Setting) (c : Cursor) : Scan :=
  words s (c.rest.length + 1) c false

end TableSink.Yaml.PlainScalar
