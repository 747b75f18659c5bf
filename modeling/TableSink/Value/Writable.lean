/-
Values that can be written.

An integer is written in base ten up to a length; a value that holds a longer
one, at any depth, has no text.
-/
import TableSink.Number.Read
import TableSink.Value.Basic

namespace TableSink

/-- The least number that has too many digits to be written. -/
def leastLong : Nat := Nat.pow 10 Number.digitLimit

/-- The wording of the failure to write such a number. -/
def longMessage : String :=
  "Exceeds the limit (4300 digits) for integer string conversion; use "
    ++ "sys.set_int_max_str_digits() to increase the limit"

/-- Has the integer too many digits to be written? -/
def isLong (n : Int) : Bool :=
  leastLong ≤ n.natAbs

namespace Value

mutual

/-- Can the value be written? -/
def isWritable : Value → Bool
  | .int n => !isLong n
  | .list items | .tuple items | .set items => allWritable items
  | .map rows | .orderedMap rows => rowsWritable rows
  | _ => true

/-- Can all values be written? -/
def allWritable : List Value → Bool
  | [] => true
  | v :: vs => isWritable v && allWritable vs

/-- Can all keys and values be written? -/
def rowsWritable : List (Value × Value) → Bool
  | [] => true
  | (k, v) :: rows => isWritable k && isWritable v && rowsWritable rows

end

end Value

end TableSink
