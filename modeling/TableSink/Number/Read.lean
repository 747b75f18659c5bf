/-
Reading numbers.

`readInt?` takes a sign and decimal digits of any script, with single
underscores between digits and blanks around the whole. `readInteger` reads in
any base, with or without the mark of the base, and says what is wrong with
the text. `readFloat?` takes a sign, digits with a point, and an exponent.
-/
import TableSink.Number.Double
import TableSink.Text.Blank
import TableSink.Text.DecimalDigit
import TableSink.Text.Hex

namespace TableSink.Number

open Text

/-! ## Whole numbers -/

/-- The longest number that is read, in digits. -/
def digitLimit : Nat := 4300

/-- Digits with single underscores between them. -/
def readDigits? : List Char → Option (List Nat)
  | [] => none
  | [c] => (digitValue? c).map ([·])
  | c :: '_' :: rest => do
    let d ← digitValue? c
    let ds ← readDigits? rest
    some (d :: ds)
  | c :: rest => do
    let d ← digitValue? c
    let ds ← readDigits? rest
    some (d :: ds)

/-- The number that digits spell in base ten. -/
def ofDigits (ds : List Nat) : Nat :=
  ds.foldl (fun n d => 10 * n + d) 0

/-- A number that starts with one of two signs, or none. -/
def splitSign : List Char → Bool × List Char
  | '-' :: s => (true, s)
  | '+' :: s => (false, s)
  | s => (false, s)

/-- The whole number that a text spells. -/
def readInt? (s : Text) : Option Int := do
  let (negative, digits) := splitSign (strip s).chars
  let ds ← readDigits? digits
  if ds.length ≤ digitLimit then
    let n : Int := ofDigits ds
    some (if negative then -n else n)
  else none

/-! ## Whole numbers in any base -/

/-- The blanks that may stand around a number: all blanks but the four
separators. -/
def isMargin (c : Char) : Bool :=
  isBlank c && !(0x1C ≤ c.toNat && c.toNat ≤ 0x1F)

/-- The text without the blanks around a number. -/
def stripMargin (s : List Char) : List Char :=
  ((s.dropWhile isMargin).reverse.dropWhile isMargin).reverse

/-- A digit of any script as the Latin digit of its value; other characters
are left as they are. -/
def latinForm (c : Char) : Char :=
  match digitValue? c with
  | some d => Nat.digitChar d
  | none => c

/-- The letter that marks a base. -/
def baseMark? (base : Nat) : Option Char :=
  if base = 2 then some 'b' else if base = 8 then some 'o'
  else if base = 16 then some 'x' else none

/-- The text after the mark of a base, where it starts with one. One underscore
may follow the mark. -/
def dropBaseMark (base : Nat) : List Char → List Char
  | '0' :: c :: s =>
    if baseMark? base = some c.toLower then
      match s with
      | '_' :: s => s
      | s => s
    else '0' :: c :: s
  | s => s

/-- Why a text spells no integer. -/
inductive IntegerFault where
  | malformed
  | tooLong (digits : Nat)
  deriving DecidableEq

/-- The value of a digit of a base. -/
def baseDigit? (base : Nat) (c : Char) : Option Nat :=
  match hexValue? c with
  | some d => if d < base then some d else none
  | none => none

/-- Is each underscore between two digits? -/
def separates : List Char → Bool
  | [] => true
  | ['_'] => false
  | '_' :: '_' :: _ => false
  | _ :: s => separates s

/-- The number that the digits of a base spell. In base ten, a number that is
too long is not worked out. -/
def readBaseDigits (base : Nat) (s : List Char) : Except IntegerFault (Int × List Char) :=
  let isPart (c : Char) : Bool := c == '_' || (baseDigit? base c).isSome
  let part := s.takeWhile isPart
  let ds := part.filterMap (baseDigit? base)
  if part.isEmpty || part.head? == some '_' || !separates part then .error .malformed
  else if base = 10 ∧ digitLimit < ds.length then .error (.tooLong ds.length)
  else .ok (((ds.foldl (fun n d => n * base + d) 0 : Nat) : Int), s.dropWhile isPart)

/-- The integer that a text spells in a base: blanks may stand around it, a
sign before it, and the mark of the base between the two. -/
def readInteger (base : Nat) (s : List Char) : Except IntegerFault Int :=
  let (negative, s) := splitSign ((s.map latinForm).dropWhile isMargin)
  match readBaseDigits base (dropBaseMark base s) with
  | .error e => .error e
  | .ok (n, rest) =>
    if rest.all isMargin then .ok (if negative then -n else n) else .error .malformed

/-! ## Doubles -/

/-- The value of a Latin digit. -/
def latinDigit? (c : Char) : Option Nat :=
  if c.isDigit then some (c.toNat - '0'.toNat) else none

/-- The Latin digits that a text starts with, and the rest of it. -/
def spanDigits (s : List Char) : List Nat × List Char :=
  ((s.takeWhile Char.isDigit).filterMap latinDigit?, s.dropWhile Char.isDigit)

/-- The double nearest to `m * 10 ^ e`. Decimals far beyond the range of
doubles are not worked out. -/
def nearestDecimal (negative : Bool) (m : Nat) (e : Int) : Float :=
  let size : Int := (Nat.toDigits 10 m).length + e
  if m = 0 ∨ size < -400 then nearest negative 0 1
  else if 400 < size then infinite negative
  else
    let (n, d) := power 10 e
    nearest negative (m * n) d

/-- The digits of an exponent, with their sign. -/
def readExponent? (s : List Char) : Option Int :=
  let (negative, s) := splitSign s
  match spanDigits s with
  | ([], _) => none
  | (ds, []) =>
    let n : Int := ofDigits ds
    some (if negative then -n else n)
  | _ => none

/-- The double that a text without blanks spells: digits with a point among
them, before them or after them, and an exponent. -/
def readMagnitude? (negative : Bool) (s : List Char) : Option Float :=
  let (whole, s) := spanDigits s
  let (part, s) := match s with
    | '.' :: s => spanDigits s
    | s => ([], s)
  if whole.isEmpty && part.isEmpty then none
  else
    let m := ofDigits (whole ++ part)
    match s with
    | [] => some (nearestDecimal negative m (-part.length))
    | c :: s =>
      if c = 'e' ∨ c = 'E' then
        (readExponent? s).map fun e => nearestDecimal negative m (e - part.length)
      else none

/-- The double that a text spells; `inf`, `infinity` and `nan` are among the
texts. Digits may be of any script. -/
def readFloat? (s : List Char) : Option Float :=
  let (negative, s) := splitSign (stripMargin (s.map latinForm))
  let word := String.ofList (s.map Char.toLower)
  if word = "inf" ∨ word = "infinity" then some (infinite negative)
  else if word = "nan" then some notANumber
  else readMagnitude? negative s

end TableSink.Number
