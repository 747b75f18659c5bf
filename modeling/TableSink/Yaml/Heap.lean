/-
The values of a document while they are made.

Collections lie in numbered cells and are named by number, for a collection can
be part of several others, and of itself. What a cell holds is put there when
it is known; before that, the cell is empty. In the end a part is revealed as a
value: a collection inside itself is shown by a mark.
-/
import TableSink.Value.Same
import TableSink.Value.Writable
import TableSink.Yaml.Node

namespace TableSink.Yaml

/-- The number of a collection. -/
abbrev CellId := Nat

/-- A part of a collection: a value that is no collection, a double of its own
that is no number, a tuple, or a collection. -/
inductive Part where
  | atom (v : Value)
  | nan (node : NodeId)
  | tuple (items : List Part)
  | cell (id : CellId)

namespace Part

mutual

/-- Are two parts the same key? The one word for no number is the same as
itself; one that came from a node is the same as what came from that node. -/
def same : Part → Part → Bool
  | .atom (.float x), .atom (.float y) => x == y || (x.isNaN && y.isNaN)
  | .atom v, .atom w => v == w
  | .nan m, .nan n => m == n
  | .tuple ps, .tuple qs => sameItems ps qs
  | .cell a, .cell b => a == b
  | _, _ => false

/-- Are two tuples the same, item by item? -/
def sameItems : List Part → List Part → Bool
  | [], [] => true
  | p :: ps, q :: qs => same p q && sameItems ps qs
  | _, _ => false

end

instance : BEq Part := ⟨same⟩

mutual

/-- The collections in a part, but for those inside collections. -/
def cells : Part → List CellId
  | .cell id => [id]
  | .tuple items => cellsIn items
  | .atom _ | .nan _ => []

/-- The collections in parts. -/
def cellsIn : List Part → List CellId
  | [] => []
  | p :: ps => cells p ++ cellsIn ps

end

mutual

/-- Is there, outside of collections, an integer that is too long to be
written? -/
def isLong : Part → Bool
  | .atom v => !v.isWritable
  | .tuple items => anyLong items
  | .nan _ | .cell _ => false

/-- Is there such an integer among parts? -/
def anyLong : List Part → Bool
  | [] => false
  | p :: ps => isLong p || anyLong ps

end

end Part

/-- What a cell holds. -/
inductive Cell where
  | list (items : List Part)
  | map (rows : List (Part × Part))
  | orderedMap (rows : List (Part × Part))
  | set (members : List Part)

namespace Cell

/-- The kind of a collection. -/
def shape : Cell → Shape
  | .list _ => .list
  | .map _ => .map
  | .orderedMap _ => .orderedMap
  | .set _ => .set

/-- The parts of a collection, keys and values alike. -/
def parts : Cell → List Part
  | .list items | .set items => items
  | .map rows | .orderedMap rows => rows.flatMap fun (k, v) => [k, v]

end Cell

/-- The cells of a document. -/
structure Heap where
  cells : Array Cell := #[]

namespace Heap

/-- The cell of a number. -/
def cell (h : Heap) (id : CellId) : Cell :=
  h.cells[id]?.getD (.list [])

/-- The heap with another cell, whose number is the size of the heap. -/
def push (h : Heap) (c : Cell) : Heap :=
  ⟨h.cells.push c⟩

/-- The heap with a cell changed. -/
def set (h : Heap) (id : CellId) (c : Cell) : Heap :=
  ⟨h.cells.setIfInBounds id c⟩

/-! ## What a part reaches -/

/-- The collections in a collection. -/
def next (h : Heap) (id : CellId) : List CellId :=
  Part.cellsIn (h.cell id).parts

/-- The collections that are reached from some, besides those seen already. Each
is looked into once. -/
def reachFrom (h : Heap) : Nat → (seen todo : List CellId) → List CellId
  | 0, seen, _ => seen
  | _, seen, [] => seen
  | fuel + 1, seen, id :: todo =>
    if seen.contains id then reachFrom h fuel seen todo
    else reachFrom h fuel (id :: seen) (h.next id ++ todo)

/-- The collections that a part reaches. -/
def reach (h : Heap) (p : Part) : List CellId :=
  let steps := h.cells.foldl (fun n c => n + (Part.cellsIn c.parts).length) p.cells.length
  h.reachFrom (steps + 1) [] p.cells

/-- Does a part reach an integer that is too long to be written? -/
def holdsLong (h : Heap) (p : Part) : Bool :=
  p.isLong || (h.reach p).any fun id => Part.anyLong (h.cell id).parts

/-! ## Values -/

/-- A value, and whether it is the same wherever it stands: no collection around
it is shown in it. -/
structure Revealed where
  value : Value
  whole : Bool

/-- A step of revealing. The values that are the same wherever they stand are
kept, so that they are worked out once. -/
abbrev Reveal (α : Type) := StateM (Array (Option Value)) α

mutual

/-- The value of a part, from the values of collections. -/
def ofPart (ofCell : CellId → Reveal Revealed) : Part → Reveal Revealed
  | .atom v => return ⟨v, true⟩
  | .nan _ => return ⟨.float Number.notANumber, true⟩
  | .cell id => ofCell id
  | .tuple items => do
    let (vs, whole) ← ofParts ofCell items
    return ⟨.tuple vs, whole⟩

/-- The values of parts. -/
def ofParts (ofCell : CellId → Reveal Revealed) : List Part → Reveal (List Value × Bool)
  | [] => return ([], true)
  | p :: ps => do
    let v ← ofPart ofCell p
    let (vs, whole) ← ofParts ofCell ps
    return (v.value :: vs, v.whole && whole)

end

/-- The values of rows. -/
def ofRows (ofCell : CellId → Reveal Revealed) (rows : List (Part × Part)) :
    Reveal (List (Value × Value) × Bool) := do
  let (ks, keysWhole) ← ofParts ofCell (rows.map (·.1))
  let (vs, valuesWhole) ← ofParts ofCell (rows.map (·.2))
  return (ks.zip vs, keysWhole && valuesWhole)

/-- The members of a set in the order in which they are shown: numbers ascend,
others come as they were put. -/
def inOrder (members : List Value) : List Value :=
  match members.mapM fun v => match v with | .int n => some n | _ => none with
  | some ns => (ns.mergeSort fun m n => decide (m ≤ n)).map .int
  | none => members

/-- The value of what a cell holds. -/
def ofContent (ofCell : CellId → Reveal Revealed) : Cell → Reveal Revealed
  | .list items => do
    let (vs, whole) ← ofParts ofCell items
    return ⟨.list vs, whole⟩
  | .set members => do
    let (vs, whole) ← ofParts ofCell members
    return ⟨.set (inOrder vs), whole⟩
  | .map rows => do
    let (rows, whole) ← ofRows ofCell rows
    return ⟨.map rows, whole⟩
  | .orderedMap rows => do
    let (rows, whole) ← ofRows ofCell rows
    return ⟨.orderedMap rows, whole⟩

/-- The value of a collection; `around` are the collections that it stands in.
The fuel is never used up, for these are distinct. -/
def revealCell (h : Heap) : Nat → (around : List CellId) → CellId → Reveal Revealed
  | 0, _, id => return ⟨.inside (h.cell id).shape, false⟩
  | fuel + 1, around, id => do
    match (← get)[id]?.join with
    | some v => return ⟨v, true⟩
    | none =>
      if around.contains id then return ⟨.inside (h.cell id).shape, false⟩
      let r ← ofContent (revealCell h fuel (id :: around)) (h.cell id)
      if r.whole then modify fun known => known.setIfInBounds id (some r.value)
      return r

/-- The values of parts, each by itself. -/
def reveal (h : Heap) (parts : List Part) : List Value :=
  let size := h.cells.size
  let steps := parts.mapM fun p => ofPart (h.revealCell (size + 1) []) p
  let (shown, _) := (steps.run (Array.replicate size none)).run
  shown.map (·.value)

end Heap

end TableSink.Yaml
