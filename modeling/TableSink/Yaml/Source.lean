/-
What can be read of a document.

Bytes are taken in chunks and turned into text chunk by chunk; what a chunk
cuts off of a character is held back until the next. The text is handed out in
blocks, each of which is read when the one before is used up; only the first
two are read at once. So a fault in the bytes is only met by who reads so far,
and it says where it stands in its chunk.
-/
import TableSink.Text.Line
import TableSink.Yaml.Error

namespace TableSink.Yaml

open Text

/-! ## Chunks of bytes -/

/-- How far a file was read. -/
structure Stream where
  /-- The bytes that were not taken yet. -/
  bytes : List UInt8
  /-- The bytes of a character that the last chunk cut off. -/
  held : List UInt8 := []
  /-- Was a carriage return held back at the end of the last chunk? -/
  heldReturn : Bool := false
  /-- The text that was not handed out yet. -/
  ready : List Char := []
  /-- The size of the last chunk, in bytes and in characters. -/
  lastBytes : Nat := 0
  lastChars : Nat := 0

namespace Stream

/-- The least size of a chunk, in bytes. -/
def chunkSize : Nat := 8192

/-- The size of the next chunk when so many characters are wanted. Characters
are taken to be as long as those of the last chunk. -/
def nextSize (s : Stream) (wanted : Nat) : Nat :=
  max chunkSize (if s.lastChars < s.lastBytes then wanted * s.lastBytes / s.lastChars else wanted)

/-- The text of a chunk with the carriage return that was held back before it.
One at its end is held back, unless the file ends there. -/
def splitReturn (heldReturn last : Bool) (text : List Char) : List Char × Bool :=
  let text := if heldReturn && (last || !text.isEmpty) then '\r' :: text else text
  if !last && text.getLast? == some '\r' then (text.dropLast, true)
  else (text, heldReturn && !last && text.isEmpty)

/-- Takes a chunk, after all text was handed out. -/
def takeChunk (s : Stream) (wanted : Nat) : Except Utf8.DecodeError Stream := do
  let chunk := s.bytes.take (s.nextSize wanted)
  let (text, held) ← Utf8.decodeFrom 0 (s.held ++ chunk)
  if chunk.isEmpty then Utf8.finish held
  let (text, heldReturn) := splitReturn s.heldReturn chunk.isEmpty text
  let ready := normalizeLines text
  return {
    bytes := s.bytes.drop chunk.length
    held, heldReturn, ready
    lastBytes := chunk.length
    lastChars := ready.length }

/-- Did the last chunk show that the file is at its end? -/
def atEnd (s : Stream) : Bool :=
  s.lastBytes == 0 && s.ready.isEmpty

/-- Hands out so many characters, or what is left. Every chunk but the last
takes a byte at least. -/
def handOut : Nat → (wanted : Nat) → Stream → Except Utf8.DecodeError (List Char × Stream)
  | 0, _, s => .ok ([], s)
  | fuel + 1, wanted, s =>
    let text := s.ready.take wanted
    let wanted := wanted - text.length
    if wanted = 0 then .ok (text, { s with ready := s.ready.drop text.length })
    else do
      let s ← s.takeChunk wanted
      if s.atEnd then return (text, s)
      let (more, s) ← handOut fuel wanted s
      return (text ++ more, s)

/-! ## Blocks of text -/

/-- The size of a block, in characters. -/
def blockSize : Nat := 4096

/-- The blocks of a file, up to the first that cannot be read. -/
def blocks : Nat → Stream → List (Except Error (List Char))
  | 0, _ => []
  | fuel + 1, s =>
    match handOut (s.bytes.length + 3) blockSize s with
    | .error cause => [.error (.undecodable cause)]
    | .ok ([], _) => []
    | .ok (block, s) => .ok block :: blocks fuel s

end Stream

/-! ## The text of a document -/

/-- The characters that a document may hold. -/
def isAllowed (c : Char) : Bool :=
  let n := c.toNat
  c == '\t' || c == '\n' || c == '\r' || (0x20 ≤ n && n ≤ 0x7E) || n == 0x85
    || (0xA0 ≤ n && n ≤ 0xFFFD) || 0x10000 ≤ n

/-- The text of a document as far as it can be read, and the fault after it. -/
structure Source where
  text : List Char
  fault : Option Error

namespace Source

/-- The text of blocks. A block that holds a character that no document may hold
is a fault as a whole. -/
def ofBlocks : List (Except Error (List Char)) → Source
  | [] => ⟨[], none⟩
  | .error e :: _ => ⟨[], some e⟩
  | .ok block :: blocks =>
    if block.all isAllowed then
      let rest := ofBlocks blocks
      { rest with text := block ++ rest.text }
    else ⟨[], some (.malformed .unprintable)⟩

/-- The first two blocks as one. -/
def joinFirst : List (Except Error (List Char)) → List (Except Error (List Char))
  | first :: second :: blocks =>
    (first.bind fun s => second.map fun t => s ++ t) :: blocks
  | blocks => blocks

/-- What can be read of bytes. -/
def ofBytes (bytes : List UInt8) : Source :=
  ofBlocks (joinFirst (Stream.blocks (bytes.length + 2) { bytes }))

end Source

end TableSink.Yaml
