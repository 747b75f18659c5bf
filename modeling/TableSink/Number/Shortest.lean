/-
The shortest decimal that reads back as a given double.

The numbers that round to a double form an interval around it, with its ends
where the significand is even. For one digit, two digits and so on, the two
neighbours of the double among the decimals of that many digits are tried; the
first number of digits with a neighbour in the interval wins, and of two the
nearer one, or the even one where both are equally near.
-/
import TableSink.Number.Double

namespace TableSink.Number

/-- The decimal `digits * 10 ^ exponent`. -/
structure Decimal where
  digits : Nat
  exponent : Int
  deriving DecidableEq

/-- The place of the first decimal digit of the fraction `num / den`: zero for
the numbers from one up to ten. -/
def magnitude (num den : Nat) : Int :=
  let guess : Int := (Nat.toDigits 10 num).length - (Nat.toDigits 10 den).length
  let (n, d) := power 10 guess
  if num * d < den * n then guess - 1 else guess

/-- The interval of the numbers that round to a double, in quarters of the last
place of its significand. Below a power of two the doubles lie closer. -/
def Dyadic.interval (x : Dyadic) : Nat × Nat :=
  let below := if x.significand = leadingBit ∧ leastExponent < x.exponent then 1 else 2
  (4 * x.significand - below, 4 * x.significand + 2)

/-- The neighbour of `x` among the multiples of `10 ^ e` that reads back as
`x`, if there is one. -/
def Dyadic.decimalAt? (x : Dyadic) (e : Int) : Option Decimal :=
  let (u, v) := power 2 (x.exponent - 2)
  let (s, t) := power 10 e
  let value := 4 * x.significand * u * t
  let step := s * v
  let low := value / step
  let (lo, hi) := x.interval
  let inside := fun (c : Nat) =>
    let c := c * step
    let lo := lo * u * t
    let hi := hi * u * t
    if x.significand % 2 = 0 then lo ≤ c && c ≤ hi else lo < c && c < hi
  let down := value - low * step
  let up := (low + 1) * step - value
  match inside low, inside (low + 1) with
  | true, true =>
    let c := if down < up then low else if up < down then low + 1 else low + low % 2
    some ⟨c, e⟩
  | true, false => some ⟨low, e⟩
  | false, true => some ⟨low + 1, e⟩
  | false, false => none

/-- The shortest decimal for a positive double. Seventeen digits are enough
for every double. -/
def Dyadic.shortest (x : Dyadic) : Decimal :=
  let (u, v) := power 2 x.exponent
  let first := magnitude (x.significand * u) v
  ((List.range 17).findSome? fun (k : Nat) => x.decimalAt? (first - k)).getD ⟨0, 0⟩

end TableSink.Number
