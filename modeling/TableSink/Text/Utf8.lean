/-
Text from bytes.

A character is one byte, or a lead byte with one to three bytes after it. The
lead byte says how many follow and, for the first of them, from where to where
it may be, so that no character has two forms, none is a surrogate and none is
too large.
-/
import TableSink.Text.Hex

namespace TableSink.Text.Utf8

/-- What a byte that opens a character says: the bits it adds, how many bytes
follow, and the range of the first of them. -/
structure Lead where
  bits : Nat
  following : Nat
  low : Nat := 0x80
  high : Nat := 0xBF

/-- What a byte opens; none where no character starts with it. -/
def lead? (b : Nat) : Option Lead :=
  if b < 0x80 then some ⟨b, 0, 0x80, 0xBF⟩
  else if b < 0xC2 then none
  else if b < 0xE0 then some ⟨b - 0xC0, 1, 0x80, 0xBF⟩
  else if b = 0xE0 then some ⟨0, 2, 0xA0, 0xBF⟩
  else if b = 0xED then some ⟨0xD, 2, 0x80, 0x9F⟩
  else if b < 0xF0 then some ⟨b - 0xE0, 2, 0x80, 0xBF⟩
  else if b = 0xF0 then some ⟨0, 3, 0x90, 0xBF⟩
  else if b < 0xF4 then some ⟨b - 0xF0, 3, 0x80, 0xBF⟩
  else if b = 0xF4 then some ⟨4, 3, 0x80, 0x8F⟩
  else none

/-- Why bytes are not text. -/
inductive Reason where
  | badStart
  | badContinuation
  | cutOff
  deriving DecidableEq

/-- The wording of a reason. -/
def Reason.text : Reason → String
  | .badStart => "invalid start byte"
  | .badContinuation => "invalid continuation byte"
  | .cutOff => "unexpected end of data"

/-- A failure: the byte that opens the character, its position, and how many
bytes of the character were there. -/
structure DecodeError where
  first : UInt8
  position : Nat
  length : Nat
  reason : Reason
  deriving DecidableEq

/-- The wording of a failure. -/
def DecodeError.message (e : DecodeError) : String :=
  "'utf-8' codec can't decode "
    ++ (if e.length = 1 then
        "byte 0x" ++ String.ofList (hexDigits 2 e.first.toNat) ++ " in position "
          ++ toString e.position
      else
        "bytes in position " ++ toString e.position ++ "-"
          ++ toString (e.position + e.length - 1))
    ++ ": " ++ e.reason.text

/-- What came of the bytes that follow a lead byte. -/
inductive Tail where
  | complete (code : Nat) (rest : List UInt8)
  | bad (taken : Nat)
  | cut (taken : Nat)

/-- Takes the bytes that follow a lead byte. -/
def takeTail : (following code low high taken : Nat) → List UInt8 → Tail
  | 0, code, _, _, _, rest => .complete code rest
  | _ + 1, _, _, _, taken, [] => .cut taken
  | following + 1, code, low, high, taken, b :: rest =>
    if low ≤ b.toNat ∧ b.toNat ≤ high then
      takeTail following (code * 64 + (b.toNat - 0x80)) 0x80 0xBF (taken + 1) rest
    else .bad taken

theorem length_of_takeTail {following code low high taken : Nat} {s rest : List UInt8} {c : Nat}
    (h : takeTail following code low high taken s = .complete c rest) :
    rest.length ≤ s.length := by
  induction following generalizing code low high taken s with
  | zero =>
    simp only [takeTail, Tail.complete.injEq] at h
    simp [← h.2]
  | succ n ih =>
    cases s with
    | nil => simp [takeTail] at h
    | cons b s =>
      simp only [takeTail] at h
      split at h
      · have := ih h
        simp only [List.length_cons]
        omega
      · simp at h

/-- Are these the first two bytes of a surrogate? Whether they are a failure is
only told with the byte that follows, or where there is none. -/
def opensSurrogate (b : UInt8) : List UInt8 → Bool
  | [c] => b == 0xED && 0xA0 ≤ c && c ≤ 0xBF
  | _ => false

/-- The characters of bytes of which the first stands at `position`, and the
bytes of a character that the end cuts off. -/
def decodeFrom (position : Nat) (s : List UInt8) :
    Except DecodeError (List Char × List UInt8) :=
  match s with
  | [] => .ok ([], [])
  | b :: s =>
    match lead? b.toNat with
    | none => .error ⟨b, position, 1, .badStart⟩
    | some l =>
      match h : takeTail l.following l.bits l.low l.high 1 s with
      | .complete code rest =>
        (decodeFrom (position + l.following + 1) rest).map fun (cs, held) =>
          (Char.ofNat code :: cs, held)
      | .bad taken =>
        if opensSurrogate b s then .ok ([], b :: s)
        else .error ⟨b, position, taken, .badContinuation⟩
      | .cut _ => .ok ([], b :: s)
termination_by s.length
decreasing_by
  have := length_of_takeTail h
  simp only [List.length_cons]
  omega

/-- Nothing may be left of the bytes of a character when the bytes end. -/
def finish : List UInt8 → Except DecodeError Unit
  | [] => .ok ()
  | b :: s =>
    if opensSurrogate b s then .error ⟨b, 0, 1, .badContinuation⟩
    else .error ⟨b, 0, s.length + 1, .cutOff⟩

/-- The characters of bytes. -/
def decode (s : List UInt8) : Except DecodeError (List Char) := do
  let (cs, held) ← decodeFrom 0 s
  finish held
  return cs

end TableSink.Text.Utf8
