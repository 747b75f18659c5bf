/-
What a document stands for.

The root of a document is looked at first. A collection begins as an empty
cell; it is filled when everything that was met before it is filled, so
collections that lie less deep come first, and among those of one depth the
first in the text. That is also the order in which faults are found. A key is
made with all that is in it at once, and what it is then counts: a list that
serves as a key is a tuple of the items that it has by then.

Without merged rows, no key may occur twice in a mapping.
-/
import TableSink.Rows
import TableSink.Yaml.Graph
import TableSink.Yaml.Heap
import TableSink.Yaml.Merge
import TableSink.Yaml.ScalarValue

namespace TableSink.Yaml

namespace Graph

/-- The text of a scalar. A mapping stands for the value under its equals
sign. -/
def scalarText? (g : Graph) : Nat → NodeId → Option Text
  | 0, _ => none
  | fuel + 1, n =>
    match (g.node n).content with
    | .scalar text => some text
    | .sequence _ => none
    | .mapping rows =>
      match rows.find? fun (k, _) => g.isEqualsSign k with
      | some (_, v) => g.scalarText? fuel v
      | none => none

/-- The text of a scalar of a kind. For a time it has to be its own. -/
def textOf? (g : Graph) (kind : ScalarKind) (n : NodeId) : Option Text :=
  match kind, (g.node n).content with
  | _, .scalar text => some text
  | .time, _ => none
  | _, _ => g.scalarText? (g.size + 1) n

/-- The number of rows and nodes, which bounds every chain of steps through the
graph. -/
def bound (g : Graph) : Nat :=
  g.nodes.foldl (fun n node => n + node.rows.length + 1) 2

end Graph

/-- What making the values of a document depends on. -/
structure Maker where
  graph : Graph
  version : Version
  /-- A bound for chains of steps. -/
  bound : Nat
  heap : Heap := {}
  /-- What the nodes stand for that are made. -/
  made : Array (Option Part)
  /-- The cells that are to be filled, the last one first. -/
  waiting : List (NodeId × CellId) := []

/-- A step of making. -/
abbrev Make (α : Type) := StateT Maker (Except Error) α

namespace Make

/-- Ends making. -/
def fail {α : Type} (cause : Malformed) : Make α :=
  throw (.malformed cause)

/-- Ends making with something that does not fit. -/
def refuse {α : Type} (cause : Unfit) : Make α :=
  throw (.unfit cause)

/-- A node of the document. -/
def node (n : NodeId) : Make Node := do
  return (← get).graph.node n

/-- Adds a cell. -/
def allocate (c : Cell) : Make CellId := do
  let id := (← get).heap.cells.size
  modify fun m => { m with heap := m.heap.push c }
  return id

/-- Fills a cell. -/
def store (id : CellId) (c : Cell) : Make Unit :=
  modify fun m => { m with heap := m.heap.set id c }

/-- Leaves a cell to be filled later. -/
def postpone (n : NodeId) (id : CellId) : Make Unit :=
  modify fun m => { m with waiting := (n, id) :: m.waiting }

/-- Keeps what a node stands for. -/
def keep (n : NodeId) (p : Part) : Make Unit :=
  modify fun m => { m with made := m.made.setIfInBounds n (some p) }

/-- Carries out the merge keys of a mapping. -/
def merge (n : NodeId) : Make Unit := do
  let m ← get
  let ((), graph) ← (Merging.merge m.bound n).run m.graph
  set { m with graph }

/-! ## Scalars -/

/-- What a scalar stands for. -/
def scalar (kind : ScalarKind) (n : NodeId) : Make Part := do
  let m ← get
  match m.graph.textOf? kind n with
  | none => fail .kind
  | some text =>
    match ← kind.value m.version text with
    | .float x =>
      if x.isNaN && !ScalarKind.isNanWord text then return .nan n else return .atom (.float x)
    | v => return .atom v

/-! ## Keys -/

/-- What serves as a key: a list serves as a tuple of its items. -/
def keyOf : Part → Make Part
  | .cell id => do
    match (← get).heap.cell id with
    | .list items => return .tuple items
    | _ => fail .collectionKey
  | p => return p

/-- Refuses a key that holds collections, which may change. -/
def refuseChangeable (key : Part) : Make Unit := do
  match key.cells with
  | [] => pure ()
  | id :: _ => refuse (.changeableKey ((← get).heap.cell id).shape.name)

/-- Refuses a key that is there already. The message about it shows the key and
both values, so none may hold an integer that is too long. -/
def refuseDuplicate (rows : List (Part × Part)) (key value : Part) : Make Unit := do
  match rows.lookup key with
  | none => pure ()
  | some earlier =>
    let h := (← get).heap
    if [key, value, earlier].any h.holdsLong then refuse .longText else fail .duplicateKey

/-! ## Collections -/

/-- How the parts of a collection are made: at once with all that is in them, or
with cells that are filled later. -/
abbrev MakePart := (deep : Bool) → NodeId → Make Part

/-- The rows of a mapping. -/
def mappingRows (part : MakePart) (deep : Bool) (n : NodeId) : Make (List (Part × Part)) := do
  merge n
  let mapping ← node n
  mapping.rows.foldlM (fun rows (k, v) => do
    let key ← keyOf (← part true k)
    let value ← part deep v
    refuseChangeable key
    if !mapping.merged then refuseDuplicate rows key value
    return Rows.put rows key value) []

/-- The row of an item that has to be a mapping of one row. -/
def pairOf (n : NodeId) : Make NodeRow := do
  match (← node n).content with
  | .mapping [row] => return row
  | _ => fail .kind

/-- The rows of a sequence whose order counts. -/
def orderedRows (part : MakePart) (deep : Bool) (items : List NodeId) :
    Make (List (Part × Part)) :=
  items.foldlM (fun rows item => do
    let (k, v) ← pairOf item
    let key ← part deep k
    refuseChangeable key
    if (rows.lookup key).isSome then refuse .repeatedKey
    return Rows.put rows key (← part deep v)) []

/-- The pairs of a sequence. -/
def pairTuples (part : MakePart) (deep : Bool) (items : List NodeId) : Make (List Part) :=
  items.mapM fun item => do
    let (k, v) ← pairOf item
    return .tuple [← part deep k, ← part deep v]

/-- The cell of a tag before it is filled; scalars have none. -/
def emptyCell? : Tag → Option Cell
  | .sequence | .pairs => some (.list [])
  | .mapping => some (.map [])
  | .orderedMapping => some (.orderedMap [])
  | .set => some (.set [])
  | .scalar _ | .other _ => none

/-- What a collection holds. -/
def content (part : MakePart) (deep : Bool) (n : NodeId) : Make Cell := do
  let node ← node n
  match node.tag, node.content with
  | .sequence, .sequence items => return .list (← items.mapM (part deep))
  | .mapping, .mapping _ => return .map (← mappingRows part deep n)
  | .set, .mapping _ => return .set ((← mappingRows part deep n).map (·.1))
  | .orderedMapping, .sequence items => return .orderedMap (← orderedRows part deep items)
  | .pairs, .sequence items => return .list (← pairTuples part deep items)
  | _, _ => fail .kind

/-! ## Nodes -/

/-- What a node stands for. `around` are the nodes that are being made; inside
itself, such a node is null. The fuel is never used up, for these are
distinct. -/
def part : Nat → (around : List NodeId) → MakePart
  | 0, _, _, _ => fail .tooDeep
  | fuel + 1, around, deep, n => do
    match (← get).made[n]?.join with
    | some p => return p
    | none =>
      if around.contains n then return .atom .null
      let tag := (← node n).tag
      let p ← match tag, emptyCell? tag with
        | _, some empty => do
          let id ← allocate empty
          if deep then store id (← content (part fuel (n :: around)) true n)
          else postpone n id
          pure (.cell id)
        | .scalar kind, none => scalar kind n
        | _, none => fail .unknownTag
      keep n p
      return p

/-- Fills the cells that wait, and those that come up meanwhile after them. -/
def fillWaiting : Nat → Make Unit
  | 0 => fail .tooDeep
  | fuel + 1 => do
    match (← get).waiting.reverse with
    | [] => pure ()
    | waiting => do
      modify fun m => { m with waiting := [] }
      for (n, id) in waiting do
        store id (← content (part (← get).bound []) false n)
      fillWaiting fuel

/-- What the root stands for, with all of its cells filled. -/
def root (n : NodeId) : Make Part := do
  let bound := (← get).bound
  let p ← part bound [] false n
  fillWaiting bound
  return p

end Make

/-- What a document stands for. -/
structure Meaning where
  heap : Heap
  root : Part

namespace Meaning

/-- What a document stands for. -/
def ofDocument (d : Graph.Document) : Except Error Meaning := do
  let (root, m) ← (Make.root d.root).run {
    graph := d.graph
    version := d.version
    bound := d.graph.bound
    made := Array.replicate d.graph.size none }
  return { heap := m.heap, root }

/-- The value as a whole. -/
def value (m : Meaning) : Value :=
  (m.heap.reveal [m.root]).headD .null

/-- The rows of the outermost mapping, each by itself; none where there is no
such mapping. -/
def rows? (m : Meaning) : Option (List (Value × Value)) :=
  match m.root with
  | .cell id =>
    match m.heap.cell id with
    | .map rows | .orderedMap rows =>
      some ((m.heap.reveal (rows.map (·.1))).zip (m.heap.reveal (rows.map (·.2))))
    | _ => none
  | _ => none

end Meaning

end TableSink.Yaml
