/-
How decimals are laid out as text.
-/
import TableSink.Number.Shortest

namespace TableSink.Number

/-- A layout for numbers: from where to where they are written in positions,
and how exponents look. -/
structure Style where
  /-- The lowest place of the first digit that is written in positions. -/
  firstPositional : Int
  /-- The highest place of the first digit that is written in positions. -/
  lastPositional : Int
  /-- Between the digits and the exponent. -/
  exponentMark : String
  /-- An exponent has at least this many digits. -/
  exponentWidth : Nat

/-- Numbers from 0.0001 up to 10000000000000000 are written in positions, with
a digit after the point; others with an exponent, its sign and two digits. -/
def valueStyle : Style where
  firstPositional := -4
  lastPositional := 15
  exponentMark := "e"
  exponentWidth := 2

/-- The text in zeros on the left to a width. -/
def padLeft (width : Nat) (s : String) : String :=
  String.ofList (List.replicate (width - s.length) '0') ++ s

/-- An exponent with its sign. -/
def Style.exponentText (style : Style) (e : Int) : String :=
  style.exponentMark ++ (if e < 0 then "-" else "+")
    ++ padLeft style.exponentWidth (toString e.natAbs)

/-- A decimal, whose digits do not end in zeros when they are written. -/
def Style.decimalText (style : Style) (x : Decimal) : String :=
  let all := Nat.toDigits 10 x.digits
  let place : Int := x.exponent + all.length - 1
  let digits := (all.reverse.dropWhile (· = '0')).reverse
  if style.firstPositional ≤ place ∧ place ≤ style.lastPositional then
    if place < 0 then
      "0." ++ String.ofList (List.replicate (-place - 1).toNat '0' ++ digits)
    else
      let whole := place.toNat + 1
      let after := digits.drop whole
      String.ofList (digits.take whole ++ List.replicate (whole - digits.length) '0') ++ "."
        ++ (if after.isEmpty then "0" else String.ofList after)
  else
    let after := digits.drop 1
    String.ofList (digits.take 1)
      ++ (if after.isEmpty then "" else "." ++ String.ofList after)
      ++ style.exponentText place

/-- A double, by its shortest decimal. -/
def Style.text (style : Style) (x : Float) : String :=
  let sign := fun (negative : Bool) => if negative then "-" else ""
  match Double.ofFloat x with
  | .nan => "nan"
  | .infinite negative => sign negative ++ "inf"
  | .finite negative magnitude =>
    if magnitude.significand = 0 then sign negative ++ "0.0"
    else sign negative ++ style.decimalText magnitude.shortest

end TableSink.Number
