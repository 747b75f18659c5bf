/-
Ranges of code points.
-/

namespace TableSink.Text

/-- Whether one of the ranges at the places from `lo` to `hi` holds `n`. The
ranges ascend, so each comparison halves the places that are left; `fuel`
bounds the halvings. -/
def inRanges (ranges : Array (Nat × Nat)) (n : Nat) : Nat → Nat → Nat → Bool
  | 0, _, _ => false
  | fuel + 1, lo, hi =>
    if lo < hi then
      let mid := (lo + hi) / 2
      match ranges[mid]? with
      | none => false
      | some (a, b) =>
        if n < a then inRanges ranges n fuel lo mid
        else if b < n then inRanges ranges n fuel (mid + 1) hi
        else true
    else false

/-- Is the character in one of the ranges, which ascend? -/
def isWithin (ranges : Array (Nat × Nat)) (c : Char) : Bool :=
  inRanges ranges c.toNat ranges.size 0 ranges.size

end TableSink.Text
