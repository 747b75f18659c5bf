/-
The tokens of a text.

Outside of brackets, indentation gives a document its structure: a deeper
column opens a collection, and a return to an earlier column closes those in
between. A key is only known as one when its colon is met; so each place that
may turn out to be a key is remembered, and its token is put in front of it
then. Such a place is given up at the end of its line, or after 1024
characters; where only a key can stand, giving it up is an error.

Tokens are read when they are asked for, so a fault in the text only counts
once all tokens before it were taken. A token that may still turn out to be a
key is not handed out, and neither are those after it.
-/
import TableSink.Yaml.BlockScalar
import TableSink.Yaml.Name

namespace TableSink.Yaml

/-- The two kinds of brackets. -/
inductive Bracket where
  | square
  | curly
  deriving DecidableEq

/-- A place that may turn out to be a key. -/
structure KeyPlace where
  /-- The number of the token that the key begins with. -/
  token : Nat
  /-- Can only a key stand here? -/
  required : Bool
  index : Nat
  line : Nat
  column : Nat

/-- How far a text was read. -/
structure Layout where
  cursor : Cursor
  tokens : Array Token := #[]
  /-- The brackets that are open, the innermost first. -/
  brackets : List Bracket := []
  /-- The column of the innermost block collection. -/
  indent : Int := -1
  /-- The columns of the collections around it. -/
  indents : List Int := []
  /-- May a key begin at the next token? -/
  keyAllowed : Bool := true
  /-- The possible keys, each with the number of brackets around it. -/
  keys : List (Nat × KeyPlace) := []
  /-- The version that was declared last. -/
  declared : Declared := .usual

namespace Layout

/-- Is the place between brackets? -/
def inFlow (l : Layout) : Bool :=
  !l.brackets.isEmpty

/-- The version whose rules hold. Versions that are not known are read like the
second one. -/
def version (l : Layout) : Version :=
  l.declared.version?.getD .v12

/-- Adds a token. -/
def push (l : Layout) (t : Token) : Layout :=
  { l with tokens := l.tokens.push t }

/-- Puts a token in front of the token of a number. -/
def insertAt (l : Layout) (n : Nat) (t : Token) : Layout :=
  { l with tokens := l.tokens.insertIdxIfInBounds n t }

/-- Moves on by some characters. -/
def skip (l : Layout) (n : Nat) : Layout :=
  { l with cursor := l.cursor.advanceBy n }

/-! ## Possible keys -/

/-- Is a possible key too far behind to become one? -/
def isStale (l : Layout) (k : KeyPlace) : Bool :=
  k.line != l.cursor.line || decide (1024 < l.cursor.index - k.index)

/-- Gives up the possible keys that are too far behind. -/
def dropStale (l : Layout) : Except Error Layout :=
  let stale := l.keys.filter fun (_, k) => l.isStale k
  if stale.any fun (_, k) => k.required then .error (l.cursor.fail .keyWithoutValue)
  else .ok { l with keys := l.keys.filter fun (_, k) => !l.isStale k }

/-- Gives up the possible key at this depth of brackets. -/
def dropKey (l : Layout) : Except Error Layout :=
  match l.keys.lookup l.brackets.length with
  | none => .ok l
  | some k =>
    if k.required then .error (l.cursor.fail .keyWithoutValue)
    else .ok { l with keys := l.keys.filter fun (depth, _) => depth != l.brackets.length }

/-- Remembers the next token as a possible key. -/
def saveKey (l : Layout) : Except Error Layout :=
  if l.keyAllowed then do
    let l ← l.dropKey
    let c := l.cursor
    let required := !l.inFlow && l.indent == (c.column : Int)
    let k : KeyPlace := ⟨l.tokens.size, required, c.index, c.line, c.column⟩
    return { l with keys := (l.brackets.length, k) :: l.keys }
  else .ok l

/-! ## Indentation -/

/-- Closes the block collections that are deeper than a column. -/
def unwindTo (column : Int) : List Int → Layout → Layout
  | [], l => l
  | outer :: outers, l =>
    if column < l.indent then
      unwindTo column outers ({ l with indent := outer, indents := outers }.push .blockEnd)
    else l

/-- Closes the block collections that are deeper than a column; between
brackets, indentation does not count. -/
def unwind (l : Layout) (column : Int) : Layout :=
  if l.inFlow then l else unwindTo column l.indents l

/-- Makes a column the one of the innermost collection, if it is deeper. -/
def deepen? (l : Layout) (column : Nat) : Option Layout :=
  if l.indent < (column : Int) then
    some { l with indent := (column : Int), indents := l.indent :: l.indents }
  else none

/-! ## Between tokens -/

/-- Passes blanks, comments and line breaks. Outside of brackets a tab is not a
blank, and a key may begin after a line break. -/
def skipBlank : Nat → Layout → Layout
  | 0, l => l
  | fuel + 1, l =>
    let c := l.cursor.skipWhile fun ch => ch == ' ' || (l.inFlow && ch == '\t')
    let c := if c.peek = '#' then c.skipWhile (!isLineEnd ·) else c
    match c.takeBreak? with
    | none => { l with cursor := c }
    | some (_, c) => skipBlank fuel { l with cursor := c, keyAllowed := l.keyAllowed || !l.inFlow }

/-- Passes all that stands before the next token; a byte order mark at the
start of the text is passed too. -/
def toNextToken (l : Layout) : Layout :=
  let l := if l.cursor.index = 0 ∧ l.cursor.peek = '\uFEFF' then l.skip 1 else l
  skipBlank (l.cursor.rest.length + 1) l

/-! ## Tokens -/

/-- The end of the text closes everything. -/
def readEnd (l : Layout) : Except Error Layout := do
  let l ← (l.unwind (-1)).dropKey
  return { l with keyAllowed := false, keys := [] }.push .textEnd

/-- The version after a directive. -/
def declare (l : Layout) : Directive → Layout
  | .version d => { l with declared := d }
  | _ => l

/-- A directive. -/
def readDirective (l : Layout) : Except Error Layout := do
  let l ← (l.unwind (-1)).dropKey
  let (d, c) ← Name.directive l.declared.isLater l.cursor.advance
  return ({ l with keyAllowed := false, cursor := c }.declare d).push (.directive d)

/-- Passes a mark that separates documents. -/
def passDocumentMark (l : Layout) : Except Error Layout := do
  let l ← (l.unwind (-1)).dropKey
  return { l with keyAllowed := false }.skip 3

/-- The mark that a document begins with. -/
def readDocumentStart (l : Layout) : Except Error Layout := do
  return (← l.passDocumentMark).push .documentStart

/-- The mark that a document ends with. -/
def readDocumentEnd (l : Layout) : Except Error Layout := do
  let l ← l.passDocumentMark
  let next := l.toNextToken.cursor
  return l.push (.documentEnd (next.line == l.cursor.line && !next.rest.isEmpty))

/-- An opening bracket. -/
def readOpening (l : Layout) (b : Bracket) (t : Token) : Except Error Layout := do
  let l ← l.saveKey
  return ({ l with brackets := b :: l.brackets, keyAllowed := true }.skip 1).push t

/-- A closing bracket. -/
def readClosing (l : Layout) (t : Token) : Except Error Layout := do
  let l ← l.dropKey
  return ({ l with brackets := l.brackets.tail, keyAllowed := false }.skip 1).push t

/-- A comma between brackets. -/
def readFlowEntry (l : Layout) : Except Error Layout := do
  let l ← { l with keyAllowed := true }.dropKey
  return (l.skip 1).push .flowEntry

/-- Opens a block collection at the column of the next character, if it is
deeper than the one around it. -/
def openBlock (l : Layout) (t : Token) : Layout :=
  match l.deepen? l.cursor.column with
  | some l => l.push t
  | none => l

/-- The hyphen of an entry. -/
def readBlockEntry (l : Layout) : Except Error Layout := do
  if !l.inFlow && !l.keyAllowed then throw (l.cursor.fail .entryNotAllowed)
  let l := if l.inFlow then l else l.openBlock .blockSequenceStart
  let l ← { l with keyAllowed := true }.dropKey
  return (l.skip 1).push .blockEntry

/-- The question mark of a key. -/
def readKey (l : Layout) : Except Error Layout := do
  if !l.inFlow && !l.keyAllowed then throw (l.cursor.fail .keyNotAllowed)
  let l := if l.inFlow then l else l.openBlock .blockMappingStart
  let l ← { l with keyAllowed := !l.inFlow }.dropKey
  return (l.skip 1).push .key

/-- The colon of a value. Where a possible key is remembered, the colon makes
it one. -/
def readValue (l : Layout) : Except Error Layout := do
  match l.keys.lookup l.brackets.length with
  | some k =>
    let l := { l with keys := l.keys.filter fun (depth, _) => depth != l.brackets.length }
    let l := l.insertAt k.token .key
    let l := if l.inFlow then l else
      match l.deepen? k.column with
      | some l => l.insertAt k.token .blockMappingStart
      | none => l
    return ({ l with keyAllowed := false }.skip 1).push .value
  | none =>
    if !l.inFlow && !l.keyAllowed then throw (l.cursor.fail .valueNotAllowed)
    let l := if l.inFlow then l else l.openBlock .blockMappingStart
    let l ← { l with keyAllowed := !l.inFlow }.dropKey
    return (l.skip 1).push .value

/-- A token that a key may begin with. -/
def readStart (l : Layout) (read : Cursor → Except Error (Token × Cursor)) :
    Except Error Layout := do
  let l ← l.saveKey
  let (t, c) ← read l.cursor
  return { l with keyAllowed := false, cursor := c }.push t

/-- A block scalar, after which a key may begin. -/
def readBlockScalar (l : Layout) : Except Error Layout := do
  let l ← { l with keyAllowed := true }.dropKey
  let (s, c) ← BlockScalar.scan l.indent l.cursor
  return { l with cursor := c }.push (.scalar (Text.ofChars s) false)

/-- A plain scalar. A key may begin after it where it ended with its line. -/
def readPlain (l : Layout) : Except Error Layout := do
  let l ← l.saveKey
  let s := PlainScalar.scan ⟨l.version, l.inFlow, l.indent + 1⟩ l.cursor
  return { l with keyAllowed := s.broken, cursor := s.after }.push
    (.scalar (Text.ofChars s.text) true)

/-! ## Which token comes next -/

/-- The characters that no plain scalar begins with, or only before others. -/
def indicators : List Char :=
  "-?:,[]\x7B\x7D#&*!|>\x27\x22%@\x60".toList

/-- Can a plain scalar begin here? A colon between brackets begins one in the
second version only. -/
def atPlain (l : Layout) : Bool :=
  let ch := l.cursor.peek
  let next := l.cursor.peekAt 1
  (!isSpaceOrBreak ch && ch != '\t' && !indicators.contains ch)
    || (ch == '-' && !isGap next)
    || (ch == ':' && l.inFlow && l.version == .v12 && !isSpace next)
    || (!l.inFlow && (ch == '?' || ch == ':') && !isGap next)

/-- Does a colon here belong to a value, whatever follows it? So it does between
brackets; in the second version only between curly ones, and there not right
after another colon. `queued` says whether an earlier token may still turn out
to be a key. -/
def colonAlone (l : Layout) (queued : Bool) : Bool :=
  match l.version, l.brackets with
  | _, [] | .v12, .square :: _ => false
  | .v12, .curly :: _ => !(queued && l.tokens.back? == some .value)
  | .v11, _ => true

/-- Does a colon here belong to a value? It always does before a gap. -/
def atValue (l : Layout) (queued : Bool) : Bool :=
  l.colonAlone queued || isGap (l.cursor.peekAt 1)

/-- Looks at the characters that tell which token begins here. -/
def look (l : Layout) (queued : Bool) : Layout :=
  let c := l.cursor
  let ch := c.peek
  let c := if c.column = 0 ∧ (ch = '-' ∨ ch = '.') then c.lookForMark else c
  let alone := match ch with
    | '-' => false
    | '?' => l.inFlow
    | ':' => l.colonAlone queued
    | _ => true
  { l with cursor := if alone then c else c.lookAhead 2 }

/-- Reads the token that begins here. -/
def readToken (l : Layout) (queued : Bool) : Except Error Layout :=
  let c := l.cursor
  let ch := c.peek
  let scalar (s : Text × Cursor) : Token × Cursor := (.scalar s.1 false, s.2)
  if c.rest.isEmpty then l.readEnd
  else if ch = '%' ∧ c.column = 0 then l.readDirective
  else if c.column = 0 ∧ c.atMark '-' then l.readDocumentStart
  else if c.column = 0 ∧ c.atMark '.' then l.readDocumentEnd
  else if ch = '[' then l.readOpening .square .flowSequenceStart
  else if ch = '\x7B' then l.readOpening .curly .flowMappingStart
  else if ch = ']' then l.readClosing .flowSequenceEnd
  else if ch = '\x7D' then l.readClosing .flowMappingEnd
  else if ch = ',' then l.readFlowEntry
  else if ch = '-' ∧ isGap (c.peekAt 1) then l.readBlockEntry
  else if ch = '?' ∧ (l.inFlow ∨ isGap (c.peekAt 1)) then l.readKey
  else if ch = ':' ∧ l.atValue queued then l.readValue
  else if ch = '*' then
    l.readStart fun c => (Name.anchor c.advance).map fun (n, c) => (.reference n, c)
  else if ch = '&' then
    l.readStart fun c => (Name.anchor c.advance).map fun (n, c) => (.anchor n, c)
  else if ch = '!' then
    l.readStart fun c => (Name.tag l.declared.isLater c).map fun (t, c) => (.tag t, c)
  else if (ch = '|' ∨ ch = '>') ∧ !l.inFlow then l.readBlockScalar
  else if ch = '\x27' ∨ ch = '\x22' then
    l.readStart fun c => (QuotedScalar.scan c).map scalar
  else if l.atPlain then l.readPlain
  else .error ((c.lookAhead 2).fail (.noToken ch))

/-- Reads the next token and all that comes with it, unless a fault is met. -/
def step (l : Layout) : Except Error Layout := do
  let queued := !l.keys.isEmpty
  let l ← l.toNextToken.dropStale
  let l ← ((l.unwind l.cursor.column).look queued).readToken queued
  match l.cursor.met? with
  | some e => throw e
  | none => l.dropStale

/-- How many tokens are handed out: those before the first that may still turn
out to be a key. -/
def settled (l : Layout) : Nat :=
  l.keys.foldl (fun n (_, k) => min n k.token) l.tokens.size

end Layout

/-- A token that is handed out, with the version that was declared last by then,
perhaps by a directive that follows the token. -/
structure Handed where
  token : Token
  declared : Declared

/-- The tokens of a text, up to the first fault. -/
structure Tokens where
  tokens : List Handed
  fault : Option Error

namespace Tokens

/-- Hands out tokens, of which some are handed out already. -/
def handOut (l : Layout) (handed : Array Handed) : Array Handed :=
  handed ++ (l.tokens.extract handed.size l.settled).map (⟨·, l.declared⟩)

/-- Reads tokens to the end of the text or to the first fault. Every token but
the last takes a character at least. -/
def readFrom : Nat → Layout → Array Handed → Tokens
  | 0, _, handed => ⟨handed.toList, some (.malformed .tooDeep)⟩
  | fuel + 1, l, handed =>
    match l.step with
    | .error e => ⟨handed.toList, some e⟩
    | .ok l =>
      let handed := handOut l handed
      if l.tokens.back? = some .textEnd then ⟨handed.toList, none⟩ else readFrom fuel l handed

/-- The tokens of a text, and of no more than can be read of it. -/
def ofText (text : List Char) (fault : Option Error) : Tokens :=
  readFrom (text.length + 2) { cursor := { rest := text, fault } } #[]

end Tokens

end TableSink.Yaml
