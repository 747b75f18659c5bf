/-
Quoted scalars.

Between single quotes a quote is written twice, and nothing else is special.
Between double quotes a backslash opens an escape. Lines fold as in plain
scalars. No mark that separates documents may stand at the start of a line.
-/
import TableSink.Yaml.PlainScalar

namespace TableSink.Yaml.QuotedScalar

open Text

/-- The characters that one letter after a backslash stands for. -/
def escapeLetters : List (Char × Char) :=
  [('0', '\x00'), ('a', '\x07'), ('b', '\x08'), ('t', '\t'), ('\t', '\t'), ('n', '\n'),
    ('v', '\x0B'), ('f', '\x0C'), ('r', '\r'), ('e', '\x1B'), (' ', ' '), ('\x22', '\x22'),
    ('/', '/'), ('\x5C', '\x5C'), ('N', '\u0085'), ('_', '\u00A0'), ('L', '\u2028'),
    ('P', '\u2029')]

/-- How many hexadecimal digits follow a letter after a backslash. -/
def escapeWidth? (c : Char) : Option Nat :=
  if c = 'x' then some 2 else if c = 'u' then some 4 else if c = 'U' then some 8 else none

/-- The number that `width` hexadecimal digits at the place spell. -/
def hexCode (width : Nat) (c : Cursor) : Except Error (Nat × Cursor) :=
  match ((List.range width).map c.peekAt).mapM hexValue? with
  | none => .error ((c.skipWhile fun ch => (hexValue? ch).isSome).fail .escape)
  | some ds => .ok (ds.foldl (fun n d => n * 16 + d) 0, c.advanceBy width)

/-- The code point of a number. -/
def codePoint (code : Nat) : Except Error CodePoint :=
  if 0x80000000 ≤ code then .error (.unfit .wideCodePoint)
  else if 0x110000 ≤ code then .error (.unfit .codePoint)
  else .ok (.ofNat code)

/-- The line breaks from here on, with the spaces around them dropped. -/
def breaks : Nat → Cursor → Except Error (List Char × Cursor)
  | 0, c => .ok ([], c)
  | fuel + 1, c =>
    let c := c.lookForMark
    if c.atDocumentMark then .error (c.fail .markInQuote)
    else
      let c := c.skipWhile isSpace
      match c.takeBreak? with
      | none => .ok ([], c)
      | some (b, c) => (breaks fuel c).map fun (more, c) => (b :: more, c)

/-- The text of an escape, at the place after its backslash. -/
def escape (c : Cursor) : Except Error (Text × Cursor) :=
  match escapeLetters.lookup c.peek with
  | some ch => .ok ([.char ch], c.advance)
  | none =>
    match escapeWidth? c.peek with
    | some width => do
      let (code, c) ← hexCode width c.advance
      return ([← codePoint code], c)
    | none =>
      match c.takeBreak? with
      | some (_, c) => (breaks (c.rest.length + 1) c).map fun (s, c) => (ofChars s, c)
      | none => .error (c.fail .escape)

/-- The text of spaces and line breaks. -/
def gap (c : Cursor) : Except Error (Text × Cursor) :=
  let (spaces, c) := c.takeWhile isSpace
  match c.takeBreak? with
  | none => .ok (ofChars spaces, c)
  | some (b, c) => do
    let (more, c) ← breaks (c.rest.length + 1) c
    return (ofChars (PlainScalar.fold b more), c)

/-- The next piece of a quoted scalar; none where its closing quote stands. -/
def piece (quote : Char) (c : Cursor) : Except Error (Option Text × Cursor) :=
  let ch := c.peek
  if c.rest.isEmpty then .error (c.fail .quoteNotClosed)
  else if ch = quote then
    if quote = singleQuote ∧ c.peekAt 1 = singleQuote then
      .ok (some [.char singleQuote], c.advanceBy 2)
    else .ok (none, c.advance)
  else if quote = doubleQuote ∧ ch = backslash then
    (escape c.advance).map fun (s, c) => (some s, c)
  else if isSpace ch ∨ isBreak ch then (gap c).map fun (s, c) => (some s, c)
  else .ok (some [.char ch], c.advance)

/-- The text up to the closing quote. -/
def body (quote : Char) : Nat → Cursor → Except Error (Text × Cursor)
  | 0, _ => .error (.malformed .quoteNotClosed)
  | fuel + 1, c =>
    match piece quote c with
    | .error e => .error e
    | .ok (none, c) => .ok ([], c)
    | .ok (some s, c) => (body quote fuel c).map fun (more, c) => (s ++ more, c)

/-- The quoted scalar that starts here. -/
def scan (c : Cursor) : Except Error (Text × Cursor) :=
  body c.peek (c.rest.length + 1) c.advance

end TableSink.Yaml.QuotedScalar
