/-
Merge keys.

Under a merge key stands a mapping, or a sequence of mappings, whose rows the
mapping takes over. The rows that are taken over come first; those of a mapping
that comes later in a sequence stand before those of an earlier one. A merge
key is taken out of its mapping before the mappings under it are looked at, so
that a mapping may take over its own rows.
-/
import TableSink.Yaml.Error
import TableSink.Yaml.Node

namespace TableSink.Yaml

namespace Graph

/-- The graph with other rows in a mapping. -/
def setRows (g : Graph) (n : NodeId) (rows : List NodeRow) : Graph :=
  g.set n { g.node n with content := .mapping rows }

/-- The graph with a node tagged anew. -/
def retag (g : Graph) (n : NodeId) (tag : Tag) : Graph :=
  g.set n { g.node n with tag }

/-- Is the node a merge key? -/
def isMergeKey (g : Graph) (n : NodeId) : Bool :=
  (g.node n).tag == .scalar .merge

/-- Is the node an equals sign? -/
def isEqualsSign (g : Graph) (n : NodeId) : Bool :=
  (g.node n).tag == .scalar .equals

/-- The graph in which equals signs among the given keys are texts. -/
def plainKeys (g : Graph) (keys : List NodeId) : Graph :=
  keys.foldl (fun g k => if g.isEqualsSign k then g.retag k (.scalar .text) else g) g

end Graph

/-- A step of merging. -/
abbrev Merging (α : Type) := StateT Graph (Except Error) α

namespace Merging

/-- The rows of a node that has to be a mapping, after its own merge keys. -/
def rowsAfter (merge : NodeId → Merging Unit) (n : NodeId) : Merging (List NodeRow) := do
  match ((← get).node n).content with
  | .mapping _ =>
    merge n
    return ((← get).node n).rows
  | _ => throw (.malformed .mergeValue)

/-- The rows that the node under a merge key gives. -/
def rowsUnder (merge : NodeId → Merging Unit) (n : NodeId) : Merging (List NodeRow) := do
  match ((← get).node n).content with
  | .sequence items => return (← items.mapM (rowsAfter merge)).reverse.flatten
  | _ => rowsAfter merge n

/-- Carries out the merge keys of a mapping from a row on; `taken` are the rows
that an earlier one brought. A second one is refused then. Each call but the
last of a run takes a merge key out of the graph. -/
def mergeFrom : Nat → (start : Nat) → (taken : List NodeRow) → NodeId → Merging Unit
  | 0, _, _, _ => throw (.malformed .tooDeep)
  | fuel + 1, start, taken, n => do
    let g ← get
    let rows := (g.node n).rows
    let own := (rows.drop start).takeWhile fun (k, _) => !g.isMergeKey k
    set (g.plainKeys (own.map (·.1)))
    match rows.drop (start + own.length) with
    | [] =>
      if !taken.isEmpty then
        modify fun g =>
          g.set n { g.node n with content := .mapping (taken ++ rows), merged := true }
    | (_, source) :: after =>
      if !taken.isEmpty then throw (.malformed .duplicateKey)
      modify fun g => g.setRows n (rows.take (start + own.length) ++ after)
      let taken ← rowsUnder (mergeFrom fuel 0 []) source
      mergeFrom fuel (start + own.length) taken n

/-- The graph in which the merge keys of a mapping are carried out. -/
def merge (fuel : Nat) (n : NodeId) : Merging Unit :=
  mergeFrom fuel 0 [] n

end Merging

end TableSink.Yaml
