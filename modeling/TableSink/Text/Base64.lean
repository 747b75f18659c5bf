/-
Bytes written in base 64.

Four characters of the alphabet make three bytes. Other characters are passed
over; an equals sign ends the text once it fills up a group of four. A group
that is not full at the end is a failure.
-/

namespace TableSink.Text.Base64

/-- The value of a character of the alphabet. -/
def value? (c : Char) : Option Nat :=
  if 'A' ≤ c ∧ c ≤ 'Z' then some (c.toNat - 'A'.toNat)
  else if 'a' ≤ c ∧ c ≤ 'z' then some (c.toNat - 'a'.toNat + 26)
  else if '0' ≤ c ∧ c ≤ '9' then some (c.toNat - '0'.toNat + 52)
  else if c = '+' then some 62
  else if c = '/' then some 63
  else none

/-- The bytes of a text. `filled` is the number of characters in the group
that is being read, `left` what the last of them leaves over, and `pads` the
number of equals signs since the last character of the alphabet. -/
def decodeFrom (filled left pads : Nat) : List Char → Option (List UInt8)
  | [] => if filled = 0 then some [] else none
  | c :: s =>
    if c = '=' then
      if 2 ≤ filled then
        if 4 ≤ filled + pads + 1 then some [] else decodeFrom filled left (pads + 1) s
      else decodeFrom filled left pads s
    else
      match value? c with
      | none => decodeFrom filled left pads s
      | some v =>
        match filled with
        | 0 => decodeFrom 1 v 0 s
        | 1 => (decodeFrom 2 (v % 16) 0 s).map (UInt8.ofNat (left * 4 + v / 16) :: ·)
        | 2 => (decodeFrom 3 (v % 4) 0 s).map (UInt8.ofNat (left * 16 + v / 4) :: ·)
        | _ => (decodeFrom 0 0 0 s).map (UInt8.ofNat (left * 64 + v) :: ·)

/-- The bytes of a text. -/
def decode? (s : List Char) : Option (List UInt8) :=
  decodeFrom 0 0 0 s

end TableSink.Text.Base64
