/-
Values that stand for whole numbers: integers, and texts that spell one. No
truth value, no double and no collection does, and neither does a date.
-/
import TableSink.Number.Read
import TableSink.Value.Basic

namespace TableSink.Value

/-- The whole number that a value stands for. -/
def toInt? : Value → Option Int
  | .int n => some n
  | .text s => Number.readInt? s
  | _ => none

end TableSink.Value
