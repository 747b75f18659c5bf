/-
Binary numbers of double precision, as exact values.

A finite double is a natural number times a power of two, with a sign. The way
back takes any positive fraction to the double that is nearest to it; of two
that are equally near, the one with the even significand.
-/

namespace TableSink.Number

/-- The number `significand * 2 ^ exponent`. -/
structure Dyadic where
  significand : Nat
  exponent : Int
  deriving DecidableEq

/-- What a double stands for. -/
inductive Double where
  | nan
  | infinite (negative : Bool)
  | finite (negative : Bool) (magnitude : Dyadic)
  deriving DecidableEq

/-- The bit above the fraction field. A significand has it, unless the number
is too small. -/
def leadingBit : Nat := 1 <<< 52

/-- The bit of the sign. -/
def signBit : Nat := 1 <<< 63

/-- The bits of the sign of a number. -/
def signBits (negative : Bool) : Nat :=
  if negative then signBit else 0

/-- The exponent field of numbers that are not finite. -/
def lastField : Nat := 2047

/-- The lowest exponent of a double. -/
def leastExponent : Int := -1074

/-- The value of a double, read off its sign, its exponent field and its
fraction field. -/
def Double.ofFloat (x : Float) : Double :=
  let bits := x.toBits.toNat
  let negative := signBit ≤ bits
  let field := bits % signBit / leadingBit
  let fraction := bits % leadingBit
  if field = lastField then if fraction = 0 then .infinite negative else .nan
  else if field = 0 then .finite negative ⟨fraction, leastExponent⟩
  else .finite negative ⟨fraction + leadingBit, (field : Int) - 1075⟩

/-- The factors `(n, d)` for which the power `e` of a base is `n / d`. -/
def power (base : Nat) (e : Int) : Nat × Nat :=
  (Nat.pow base e.toNat, Nat.pow base (-e).toNat)

/-- The quotient rounded to the nearest number, a half to the even one. -/
def roundDiv (num den : Nat) : Nat :=
  let q := num / den
  let rest := 2 * (num % den)
  if rest < den then q else if den < rest then q + 1 else q + q % 2

/-- The exponent with which the fraction `num / den` has a significand of 53
binary digits, or the least exponent where that would be lower. -/
def exponentOf (num den : Nat) : Int :=
  let guess : Int := (num.log2 : Int) - (den.log2 : Int) - 52
  let (n, d) := power 2 (-guess)
  let e := if num * n < leadingBit * (den * d) then guess - 1 else guess
  max e leastExponent

/-- The bits, but for the sign, of the double nearest to `num / den`. Rounding
up from the largest significand carries into the exponent field, and past the
last exponent the double is infinite. -/
def nearestBits (num den : Nat) : Nat :=
  let e := exponentOf num den
  let (n, d) := power 2 (-e)
  let m := roundDiv (num * n) (den * d)
  let bits :=
    if m < leadingBit then m else (e + 1075).toNat * leadingBit + (m - leadingBit)
  min bits (lastField * leadingBit)

/-- The double nearest to `num / den`, with a sign. -/
def nearest (negative : Bool) (num den : Nat) : Float :=
  Float.ofBits (UInt64.ofNat (signBits negative + nearestBits num den))

/-- The infinite double of a sign. -/
def infinite (negative : Bool) : Float :=
  Float.ofBits (UInt64.ofNat (signBits negative + lastField * leadingBit))

/-- The double that is no number. -/
def notANumber : Float :=
  Float.ofBits (UInt64.ofNat (lastField * leadingBit + leadingBit / 2))

/-- The whole number that a double is equal to, if there is one. -/
def Double.toInt? : Double → Option Int
  | .nan | .infinite _ => none
  | .finite negative ⟨m, e⟩ =>
    let (n, d) := power 2 e
    if m * n % d = 0 then
      let v : Int := ((m * n / d : Nat) : Int)
      some (if negative then -v else v)
    else none

end TableSink.Number
