/-
The graph of a document, read from its tokens.

A node may have an anchor and a tag. An alias stands for the node that its
anchor named last. Reading asks for one token at a time, so that what is wrong
with the structure of a document is found before a fault that follows.
-/
import TableSink.Yaml.Layout
import TableSink.Yaml.Node

namespace TableSink.Yaml.Graph

/-! ## Steps of reading -/

/-- What reading depends on: the tokens that are left and the fault after them,
the version that is declared, the meanings of handles, the nodes so far, and the
anchors. -/
structure Reader where
  tokens : List Handed
  fault : Option Error
  declared : Declared := .usual
  handles : List (String × String) := []
  graph : Graph := {}
  anchors : List (String × NodeId) := []

/-- A step of reading. -/
abbrev Read (α : Type) := StateT Reader (Except Error) α

/-- Ends reading. -/
def fail {α : Type} (cause : Malformed) : Read α :=
  throw (.malformed cause)

/-- The next token; the version that is declared by then holds from there on.
Where there is no token, reading meets the fault. -/
def peek : Read Token := do
  let r ← get
  match r.tokens, r.fault with
  | t :: _, _ =>
    modify fun r => { r with declared := t.declared }
    return t.token
  | [], some e => throw e
  | [], none => return .textEnd

/-- Takes the next token. -/
def skip : Read Unit :=
  modify fun r => { r with tokens := r.tokens.tail }

/-- Adds a node. -/
def add (node : Node) : Read NodeId := do
  let n := (← get).graph.size
  modify fun r => { r with graph := r.graph.push node }
  return n

/-- Gives a node its content. -/
def fill (n : NodeId) (content : Content) : Read Unit :=
  modify fun r => { r with graph := r.graph.set n { r.graph.node n with content } }

/-- Names a node by an anchor. -/
def bindAnchor (anchor : Option String) (n : NodeId) : Read Unit :=
  match anchor with
  | none => pure ()
  | some name => modify fun r => { r with anchors := (name, n) :: r.anchors }

/-- The node of an alias. -/
def ofAlias (name : String) : Read NodeId := do
  match (← get).anchors.lookup name with
  | some n => return n
  | none => fail (.undefinedAlias name)

/-! ## Tags and anchors -/

/-- The character that two characters after a percent sign stand for: the one
whose code they spell in base sixteen. -/
def percentChar (digits : List Char) : Except Error Char :=
  match Number.readInteger 16 digits with
  | .ok n => if n < 0 then .error (.unfit .codePoint) else .ok (Char.ofNat n.toNat)
  | .error _ => .error (.unfit (.integer 16 (String.ofList digits)))

/-- The rest of a tag with its percent signs resolved. -/
def resolvePercent (s : List Char) : Except Error (List Char) :=
  match s with
  | [] => .ok []
  | '%' :: a :: b :: s => do return (← percentChar [a, b]) :: (← resolvePercent s)
  | ['%', a] => do return [← percentChar [a]]
  | ['%'] => do return [← percentChar []]
  | c :: s => do return c :: (← resolvePercent s)

/-- What a handle stands for. -/
def handleStem : Option String → Read String
  | none => pure ""
  | some handle => do
    match (← get).handles.lookup handle with
    | some stem => return stem
    | none => fail .undefinedHandle

/-- The full name of a tag. -/
def tagName (t : TagText) : Read String := do
  let stem ← handleStem t.handle
  return stem ++ String.ofList (← resolvePercent t.suffix.toList)

/-- Reads an anchor, if there is one. -/
def anchor? : Read (Option String) := do
  match ← peek with
  | .anchor name => skip; return some name
  | _ => return none

/-- Reads a tag, if there is one. -/
def tag? : Read (Option TagText) := do
  match ← peek with
  | .tag t => skip; return some t
  | _ => return none

/-- Reads the anchor and the tag of a node, in either order. -/
def properties : Read (Option String × Option String) := do
  let anchor ← anchor?
  let tag ← tag?
  let anchor ← if anchor.isNone && tag.isSome then anchor? else pure anchor
  match tag with
  | none => return (anchor, none)
  | some t => return (anchor, some (← tagName t))

/-- The tag of what a text looks like. The version that is declared has to be a
known one. -/
def looksTag (text : Text) : Read Tag := do
  let d := (← get).declared
  match d.version? with
  | some version => return .scalar (.ofPlain version text)
  | none => throw (.unfit (.looks d.major d.minor))

/-- The tag of a scalar. A plain scalar without one is what it looks like, and
so is any scalar under a mark alone. -/
def scalarTag (tag : Option String) (plain : Bool) (text : Text) : Read Tag :=
  match tag with
  | some "!" => looksTag text
  | some name => return .ofName name
  | none => if plain then looksTag text else return .scalar .text

/-- The tag of a collection. -/
def collectionTag (tag : Option String) (usual : Tag) : Tag :=
  match tag with
  | none | some "!" => usual
  | some name => .ofName name

/-- Adds a scalar. -/
def addScalar (anchor tag : Option String) (plain : Bool) (text : Text) : Read NodeId := do
  let n ← add { tag := ← scalarTag tag plain text, content := .scalar text }
  bindAnchor anchor n
  return n

/-- Adds a node that is left out. -/
def addAbsent : Read NodeId :=
  addScalar none none true []

/-- Adds a sequence. Its anchor holds for its own items too. -/
def addSequence (anchor tag : Option String) (items : Read (List NodeId)) : Read NodeId := do
  let n ← add { tag := collectionTag tag .sequence, content := .sequence [] }
  bindAnchor anchor n
  fill n (.sequence (← items))
  return n

/-- Adds a mapping. Its anchor holds for its own rows too. -/
def addMapping (anchor tag : Option String) (rows : Read (List NodeRow)) : Read NodeId := do
  let n ← add { tag := collectionTag tag .mapping, content := .mapping [] }
  bindAnchor anchor n
  fill n (.mapping (← rows))
  return n

/-- Adds a mapping of one row. -/
def addPair (key value : NodeId) : Read NodeId :=
  addMapping none none (pure [(key, value)])

/-! ## Nodes -/

mutual

/-- Reads a node. Block collections are only taken where `block` holds, and
entries without an indentation of their own only where `bare` does. -/
def read : Nat → (block bare : Bool) → Read NodeId
  | 0, _, _ => fail .tooDeep
  | fuel + 1, block, bare => do
    if let .reference name := ← peek then
      skip
      return ← ofAlias name
    let (anchor, tag) ← properties
    match ← peek with
    | .scalar text plain =>
      skip
      addScalar anchor tag plain text
    | .flowSequenceStart =>
      skip
      addSequence anchor tag (readFlowItems fuel true)
    | .flowMappingStart =>
      skip
      addMapping anchor tag (readFlowRows fuel true)
    | t =>
      if bare && t == .blockEntry then
        addSequence anchor tag (readBareItems fuel)
      else if block && t == .blockSequenceStart then
        skip
        addSequence anchor tag (readBlockItems fuel)
      else if block && t == .blockMappingStart then
        skip
        addMapping anchor tag (readBlockRows fuel)
      else if anchor.isSome || tag.isSome then
        addScalar anchor tag true []
      else fail .noContent

/-- Reads the entries of a block sequence. -/
def readBlockItems : Nat → Read (List NodeId)
  | 0 => fail .tooDeep
  | fuel + 1 => do
    match ← peek with
    | .blockEntry =>
      skip
      let item ← readUnless fuel [.blockEntry, .blockEnd] true false
      return item :: (← readBlockItems fuel)
    | .blockEnd => skip; return []
    | _ => fail .unexpected

/-- Reads entries that are not indented under their key. -/
def readBareItems : Nat → Read (List NodeId)
  | 0 => fail .tooDeep
  | fuel + 1 => do
    match ← peek with
    | .blockEntry =>
      skip
      let item ← readUnless fuel [.blockEntry, .key, .value, .blockEnd] true false
      return item :: (← readBareItems fuel)
    | _ => return []

/-- Reads the rows of a block mapping. A key or a value may be left out; a key
only in the second version. -/
def readBlockRows : Nat → Read (List NodeRow)
  | 0 => fail .tooDeep
  | fuel + 1 => do
    match ← peek with
    | .key =>
      skip
      let key ← readUnless fuel [.key, .value, .blockEnd] true true
      let value ← readValue fuel [.key, .value, .blockEnd] true
      return (key, value) :: (← readBlockRows fuel)
    | .value =>
      if !(← get).declared.isLater then fail .unexpected
      let key ← addAbsent
      let value ← readValue fuel [.key, .value, .blockEnd] true
      return (key, value) :: (← readBlockRows fuel)
    | .blockEnd => skip; return []
    | _ => fail .unexpected

/-- Reads the items of a sequence in brackets. A pair without brackets of its
own is a mapping of one row. -/
def readFlowItems : Nat → (first : Bool) → Read (List NodeId)
  | 0, _ => fail .tooDeep
  | fuel + 1, first => do
    if (← peek) == .flowSequenceEnd then
      skip
      return []
    if !first then
      if (← peek) != .flowEntry then fail .unexpected
      skip
    match ← peek with
    | .flowSequenceEnd => skip; return []
    | .key =>
      skip
      let key ← readUnless fuel [.value, .flowEntry, .flowSequenceEnd] false false
      let value ← readValue fuel [.flowEntry, .flowSequenceEnd] false
      let item ← addPair key value
      return item :: (← readFlowItems fuel false)
    | _ =>
      let item ← read fuel false false
      return item :: (← readFlowItems fuel false)

/-- Reads the rows of a mapping in brackets. -/
def readFlowRows : Nat → (first : Bool) → Read (List NodeRow)
  | 0, _ => fail .tooDeep
  | fuel + 1, first => do
    if (← peek) == .flowMappingEnd then
      skip
      return []
    if !first then
      if (← peek) != .flowEntry then fail .unexpected
      skip
    let t ← peek
    if t == .flowMappingEnd then
      skip
      return []
    else if t == .key then
      skip
      let key ← readUnless fuel [.value, .flowEntry, .flowMappingEnd] false false
      let value ← readValue fuel [.flowEntry, .flowMappingEnd] false
      return (key, value) :: (← readFlowRows fuel false)
    else if t == .value && (← get).declared.isLater then
      let key ← addAbsent
      let value ← readValue fuel [.flowEntry, .flowMappingEnd] false
      return (key, value) :: (← readFlowRows fuel false)
    else
      let key ← read fuel false false
      let _ ← peek
      let value ← addAbsent
      return (key, value) :: (← readFlowRows fuel false)

/-- Reads a node, or none where one of the given tokens stands. -/
def readUnless : Nat → List Token → (block bare : Bool) → Read NodeId
  | 0, _, _, _ => fail .tooDeep
  | fuel + 1, stops, block, bare => do
    if stops.contains (← peek) then addAbsent else read fuel block bare

/-- Reads the value of a row, after its colon; without a colon there is none. -/
def readValue : Nat → List Token → (block : Bool) → Read NodeId
  | 0, _, _ => fail .tooDeep
  | fuel + 1, stops, block => do
    if (← peek) == .value then
      skip
      readUnless fuel stops block block
    else addAbsent

end

/-! ## Documents -/

/-- The meanings that handles have when no directive says otherwise. -/
def usualHandles : List (String × String) :=
  [("!", "!"), ("!!", Tag.standardStem)]

/-- Reads directives; `seen` is the version that one of them declared. -/
def readDirectives : Nat → (seen : Option Declared) → Read (Option Declared)
  | 0, _ => fail .tooDeep
  | fuel + 1, seen => do
    match ← peek with
    | .directive (.version d) =>
      if seen.isSome then fail .duplicateDirective
      if d.major ≠ 1 then fail .version
      skip
      readDirectives fuel (some d)
    | .directive (.handle name stem) =>
      if ((← get).handles.lookup name).isSome then fail .duplicateDirective
      modify fun r => { r with handles := r.handles ++ [(name, stem)] }
      skip
      readDirectives fuel seen
    | .directive .other => skip; readDirectives fuel seen
    | _ => return seen

/-- Refuses a version that is not known. -/
def refuseUnknown : Option Declared → Read Unit
  | none => pure ()
  | some d => if d.version?.isNone then throw (.unfit (.version d.major d.minor)) else pure ()

/-- Reads the directives and the mark before a document. -/
def readHeader (fuel : Nat) : Read Unit := do
  modify fun r => { r with handles := [] }
  refuseUnknown (← readDirectives fuel none)
  modify fun r => { r with handles := r.handles ++ usualHandles }
  if (← peek) != .documentStart then fail .documentStart
  skip

/-- Passes the marks that a document of the first version may end with. -/
def passEnds : Nat → Read Unit
  | 0 => fail .tooDeep
  | fuel + 1 => do
    match ← peek with
    | .documentEnd _ => skip; passEnds fuel
    | _ => pure ()

/-- Reads what follows a document: nothing, or the mark of its end and nothing.
The header of another document is read before it is refused. -/
def readEnd (fuel : Nat) : Read Unit := do
  if let .documentEnd followed := ← peek then
    skip
    let _ ← peek
    if followed then fail .unexpected
    if (← get).declared = .first then passEnds fuel
  match ← peek with
  | .textEnd => pure ()
  | .directive _ | .documentStart => do
    readHeader fuel
    fail .severalDocuments
  | _ => fail .severalDocuments

/-- Reads a document and what ends the text after it. A text that holds no
document has no node. -/
def readDocument (fuel : Nat) : Read (Option NodeId) := do
  match ← peek with
  | .textEnd => return none
  | .directive _ | .documentStart => do
    readHeader fuel
    let n ← match ← peek with
      | .directive _ | .documentStart | .documentEnd _ | .textEnd => addAbsent
      | _ => read fuel true false
    readEnd fuel
    return some n
  | _ => do
    modify fun r => { r with handles := usualHandles }
    let n ← read fuel true false
    readEnd fuel
    return some n

/-- A document: its nodes, the first of them, and its version. -/
structure Document where
  graph : Graph
  root : NodeId
  version : Version

/-- The document that tokens spell. The fuel is never used up: each call of a
reading function takes a token, or is one of at most four in a row that do
not. -/
def ofTokens? (ts : Tokens) : Except Error (Option Document) := do
  let (root, r) ←
    (readDocument (4 * ts.tokens.length + 8)).run { tokens := ts.tokens, fault := ts.fault }
  return root.map fun root => { graph := r.graph, root, version := r.declared.version?.getD .v12 }

end TableSink.Yaml.Graph
