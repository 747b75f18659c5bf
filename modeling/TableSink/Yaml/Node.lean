/-
The nodes of a document: scalars, sequences and mappings.

A document is a graph. Its nodes are numbered in the order in which they begin,
and collections name their nodes by number, so that an alias is the number of
the node that it stands for, even of one that it stands in.
-/
import TableSink.Yaml.ScalarKind

namespace TableSink.Yaml

/-! ## Tags -/

/-- What a node is tagged as. -/
inductive Tag where
  | scalar (kind : ScalarKind)
  | sequence
  | mapping
  | set
  | orderedMapping
  | pairs
  | other (name : String)
  deriving DecidableEq

namespace Tag

/-- The start of the tags of the format itself. -/
def standardStem : String := "tag:yaml.org,2002:"

/-- The tags of the format itself. -/
def standard : List (String × Tag) :=
  [("null", .scalar .null), ("bool", .scalar .bool), ("int", .scalar .int),
    ("float", .scalar .float), ("timestamp", .scalar .time), ("binary", .scalar .binary),
    ("str", .scalar .text), ("merge", .scalar .merge), ("value", .scalar .equals),
    ("seq", .sequence), ("map", .mapping), ("set", .set), ("omap", .orderedMapping),
    ("pairs", .pairs)]

/-- The tag of a full name. -/
def ofName (name : String) : Tag :=
  match standard.find? fun (suffix, _) => standardStem ++ suffix == name with
  | some (_, tag) => tag
  | none => .other name

end Tag

/-! ## Nodes -/

/-- The number of a node. -/
abbrev NodeId := Nat

/-- A row of a mapping: its key and its value. -/
abbrev NodeRow := NodeId × NodeId

/-- What a node holds. -/
inductive Content where
  | scalar (text : Text)
  | sequence (items : List NodeId)
  | mapping (rows : List NodeRow)
  deriving DecidableEq

/-- A node of a document. -/
structure Node where
  tag : Tag
  content : Content
  /-- Did the mapping take over rows of other mappings? -/
  merged : Bool := false
  deriving DecidableEq

namespace Node

/-- A node that is left out. -/
def absent : Node where
  tag := .scalar .null
  content := .scalar []

/-- The rows of a mapping; other nodes have none. -/
def rows (n : Node) : List NodeRow :=
  match n.content with
  | .mapping rows => rows
  | _ => []

end Node

/-! ## Graphs -/

/-- The nodes of a document. -/
structure Graph where
  nodes : Array Node := #[]

namespace Graph

/-- The node of a number. -/
def node (g : Graph) (n : NodeId) : Node :=
  g.nodes[n]?.getD .absent

/-- The graph with a node changed. -/
def set (g : Graph) (n : NodeId) (node : Node) : Graph :=
  ⟨g.nodes.setIfInBounds n node⟩

/-- The graph with one more node. -/
def push (g : Graph) (node : Node) : Graph :=
  ⟨g.nodes.push node⟩

/-- The number of nodes, which is the number of the next one. -/
def size (g : Graph) : Nat :=
  g.nodes.size

end Graph

end TableSink.Yaml
