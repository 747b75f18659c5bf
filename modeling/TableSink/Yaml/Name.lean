/-
Names in a document: anchors, tags and directives.
-/
import TableSink.Number.Read
import TableSink.Text.Utf8
import TableSink.Yaml.QuotedScalar
import TableSink.Yaml.Token

namespace TableSink.Yaml.Name

/-! ## Anchors -/

/-- The characters of anchors: all that can be seen, but for the marks that
structure collections between brackets. -/
def isAnchorChar (c : Char) : Bool :=
  let n := c.toNat
  !([',', '[', ']', '\x7B', '\x7D'].contains c)
    && ((0x21 ≤ n && n ≤ 0x7E) || (0xA0 ≤ n && n ≤ 0xD7FF)
      || (0xE000 ≤ n && n ≤ 0xFFFD && n != 0xFEFF) || 0x10000 ≤ n)

/-- The characters that may follow an anchor. -/
def mayFollowAnchor (c : Char) : Bool :=
  isSpaceOrBreak c
    || ['\t', '?', ':', ',', '[', ']', '\x7B', '\x7D', '%', '@', '\x60'].contains c

/-- Reads the name of an anchor or an alias, after its mark. -/
def anchor (c : Cursor) : Except Error (String × Cursor) :=
  let (name, c) := c.takeWhile isAnchorChar
  if name.isEmpty ∨ !mayFollowAnchor c.peek then .error (c.fail .name)
  else .ok (String.ofList name, c)

/-! ## Tags -/

/-- The characters of words in handles. -/
def isWordChar (c : Char) : Bool :=
  c.isAlphanum || c == '-' || c == '_'

/-- The characters of tags. The number sign came with the second version of the
format. -/
def isTagChar (hash : Bool) (c : Char) : Bool :=
  c.isAlphanum || "-;/?:@&=+$,_.!~*\x27()[]%".toList.contains c || (hash && c == '#')

/-- Reads a handle: an exclamation mark, alone before a space, or with a word
and a second mark. -/
def handle (c : Cursor) : Except Error (String × Cursor) :=
  if c.peek ≠ '!' then .error (c.fail .tag)
  else
    let after := c.advance
    if after.peek = ' ' then .ok ("!", after)
    else
      let (word, after) := after.takeWhile isWordChar
      if after.peek = '!' then .ok (String.ofList ('!' :: word ++ ['!']), after.advance)
      else .error (after.fail .tag)

/-- Reads the bytes that percent signs with two hexadecimal digits spell. -/
def percentBytes : Nat → Cursor → Except Error (List UInt8 × Cursor)
  | 0, c => .ok ([], c)
  | fuel + 1, c =>
    if c.peek = '%' then do
      let (code, c) ← QuotedScalar.hexCode 2 c.advance
      let (more, c) ← percentBytes fuel c
      return (UInt8.ofNat code :: more, c)
    else .ok ([], c)

/-- Reads the characters of a tag. -/
def tagChars (hash : Bool) : Nat → Cursor → Except Error (List Char × Cursor)
  | 0, c => .ok ([], c)
  | fuel + 1, c =>
    if c.peek = '%' then do
      let (bytes, c) ← percentBytes (c.rest.length + 1) c
      match Text.Utf8.decode bytes with
      | .error _ => throw (c.fail .tag)
      | .ok s =>
        let (more, c) ← tagChars hash fuel c
        return (s ++ more, c)
    else if isTagChar hash c.peek then
      (tagChars hash fuel c.advance).map fun (more, c') => (c.peek :: more, c')
    else .ok ([], c)

/-- Reads a part of a tag that is not empty. -/
def tagPart (hash : Bool) (c : Cursor) : Except Error (String × Cursor) := do
  let (s, c) ← tagChars hash (c.rest.length + 1) c
  if s.isEmpty then throw (c.fail .tag)
  return (String.ofList s, c)

/-- How many characters tell whether a handle stands here: those up to its
second mark, or to the end of the word. -/
def handleWidth (c : Cursor) : Nat :=
  ((c.rest.drop 1).takeWhile fun ch => ch != '!' && !isSpaceOrBreak ch).length + 2

/-- Does a mark stand here, before the end of the word, that closes a
handle? -/
def closesHandle (c : Cursor) : Bool :=
  c.peekAt (handleWidth c - 1) == '!'

/-- Reads a tag after its mark, or after the first mark of two: in angle
brackets, as marks alone, or with a handle. Where a further mark follows, the
handle is read from the last mark on. -/
def tagText (hash : Bool) (c : Cursor) : Except Error (TagText × Cursor) := do
  let doubled := c.peekAt 1 = '!'
  let c := (if doubled then c.lookAhead 2 |>.advance else c).lookAhead 2
  if c.peekAt 1 = '<' then
    let (suffix, c) ← tagPart hash (c.advanceBy 2)
    if c.peek = '>' then return (⟨none, suffix⟩, c.advance) else throw (c.fail .tag)
  else if isGap (c.peekAt 1) then return (⟨none, if doubled then "!!" else "!"⟩, c.advance)
  else
    let c := c.lookAhead (handleWidth c)
    let (h, c) ← if closesHandle c then handle c
      else pure (if doubled then "!!" else "!", c.advance)
    let (suffix, c) ← tagPart hash c
    return (⟨some h, suffix⟩, c)

/-- Reads a tag; a space or a break has to follow. -/
def tag (hash : Bool) (c : Cursor) : Except Error (TagText × Cursor) := do
  let (t, c) ← tagText hash c
  if isSpaceOrBreak c.peek then return (t, c) else throw (c.fail .tag)

/-! ## Directives -/

/-- The characters of the names of directives. -/
def isDirectiveChar (c : Char) : Bool :=
  isWordChar c || c == ':' || c == '.'

/-- Reads a number. -/
def number (c : Cursor) : Except Error (Nat × Cursor) :=
  let (ds, c) := c.takeWhile Char.isDigit
  if ds.isEmpty then .error (c.fail .directive)
  else if Number.digitLimit < ds.length then
    .error (c.met?.getD (.unfit (.longInteger ds.length)))
  else .ok (Number.ofDigits (ds.filterMap Number.latinDigit?), c)

/-- Takes what was read before a space or a break. -/
def beforeGap (d : Directive) (c : Cursor) : Except Error (Directive × Cursor) :=
  if isSpaceOrBreak c.peek then .ok (d, c) else .error (c.fail .directive)

/-- Reads the numbers of a version. -/
def version (c : Cursor) : Except Error (Directive × Cursor) := do
  let (major, c) ← number (c.skipWhile (· == ' '))
  if c.peek ≠ '.' then throw (c.fail .directive)
  let (minor, c) ← number c.advance
  beforeGap (.version ⟨major, minor⟩) c

/-- Reads a handle and what it stands for. -/
def handleMeaning (hash : Bool) (c : Cursor) : Except Error (Directive × Cursor) := do
  let (name, c) ← handle (c.skipWhile (· == ' '))
  if c.peek ≠ ' ' then throw (c.fail .directive)
  let (stem, c) ← tagPart hash (c.skipWhile (· == ' '))
  beforeGap (.handle name stem) c

/-- Reads a directive to the end of its line, after its mark. -/
def directive (hash : Bool) (c : Cursor) : Except Error (Directive × Cursor) := do
  let (name, c) := c.takeWhile isDirectiveChar
  if name.isEmpty ∨ !isSpaceOrBreak c.peek then throw (c.fail .directive)
  let (d, c) ←
    match String.ofList name with
    | "YAML" => version c
    | "TAG" => handleMeaning hash c
    | _ => pure (.other, c.skipWhile (!isLineEnd ·))
  let c := c.skipWhile (· == ' ')
  let c := if c.peek = '#' then c.skipWhile (!isLineEnd ·) else c
  match c.takeBreak? with
  | some (_, c) => return (d, c)
  | none => if c.rest.isEmpty then return (d, c) else throw (c.fail .directive)

end TableSink.Yaml.Name
