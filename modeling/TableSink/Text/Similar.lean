/-
How similar two texts are.

The longest piece that two texts share is matched, the first of several; then
what is left of it in both, and what is right of it, in the same way. Two texts
are close when the matched characters are at least three fifths of all.
-/

namespace TableSink.Text

/-- The number of characters in which two texts agree at their start. -/
def commonStart : List Char → List Char → Nat
  | a :: s, b :: t => if a = b then commonStart s t + 1 else 0
  | _, _ => 0

/-- A piece that two texts share. -/
structure SharedPiece where
  left : Nat := 0
  right : Nat := 0
  length : Nat := 0

/-- The longest shared piece, the first of several of one length. -/
def longestShared (s t : List Char) : SharedPiece :=
  (List.range s.length).foldl (fun best i =>
    (List.range t.length).foldl (fun best j =>
      let n := commonStart (s.drop i) (t.drop j)
      if best.length < n then ⟨i, j, n⟩ else best) best) {}

/-- The number of matched characters. -/
def matched : Nat → List Char → List Char → Nat
  | 0, _, _ => 0
  | fuel + 1, s, t =>
    let p := longestShared s t
    if p.length = 0 then 0
    else
      matched fuel (s.take p.left) (t.take p.right) + p.length
        + matched fuel (s.drop (p.left + p.length)) (t.drop (p.right + p.length))

/-- The matched characters of two texts, and the characters of both together. -/
def similarity (s t : String) : Nat × Nat :=
  (2 * matched (s.length + 1) s.toList t.toList, s.length + t.length)

/-- Are two texts close? -/
def isClose (s t : String) : Bool :=
  let (shared, all) := similarity s t
  3 * all ≤ 5 * shared

/-- Those of the candidates that are close to a word, in ascending order. -/
def closeTo (word : String) (candidates : List String) : List String :=
  (candidates.filter fun c => isClose c word).mergeSort fun a b => decide (a ≤ b)

end TableSink.Text
