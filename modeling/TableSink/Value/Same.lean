/-
When two values are the same key.

Numbers are compared by what they are worth, whichever way they are written: a
truth value is worth zero or one, and a whole double is worth the same as the
integer. No double that is not a number is the same as another value.
-/
import TableSink.Value.Basic

namespace TableSink.Value

open Number

/-- What a number is worth, where it is a whole number. -/
def whole? : Value → Option Int
  | .bool b => some (if b then 1 else 0)
  | .int n => some n
  | .float x => (Double.ofFloat x).toInt?
  | _ => none

mutual

/-- Are two values the same key? -/
def same : Value → Value → Bool
  | .null, .null => true
  | .text s, .text t => s == t
  | .list xs, .list ys => sameItems xs ys
  | .tuple xs, .tuple ys => sameItems xs ys
  | .date d, .date e => d == e
  | .dateTime t, .dateTime u => t.same u
  | .bytes a, .bytes b => a == b
  | .float x, .float y => x == y
  | v, w =>
    match v.whole?, w.whole? with
    | some m, some n => m == n
    | _, _ => false

/-- Are two lists the same, item by item? -/
def sameItems : List Value → List Value → Bool
  | [], [] => true
  | v :: vs, w :: ws => same v w && sameItems vs ws
  | _, _ => false

end

instance : BEq Value := ⟨same⟩

end TableSink.Value
