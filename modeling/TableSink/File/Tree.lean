/-
A directory with what is in it.

The directory lies in others, of which nothing else is known; above the highest
of them there is nothing.
-/
import TableSink.File.Path

namespace TableSink

/-- What stands under a path. -/
inductive FileEntry where
  | missing
  | directory
  /-- A name on the way is too long for any file. -/
  | tooLong
  | file (content : List UInt8)

/-- Files and directories, each by the names on the way to it. -/
structure FileTree where
  files : List (List String × List UInt8) := []
  directories : List (List String) := []

namespace FileTree

/-- The tree in which the given paths were made. -/
def ofPaths (files : List (String × List UInt8)) (directories : List String) : FileTree where
  files := files.map fun (path, content) => ((Path.resolve path).1, content)
  directories := directories.map (fun path => (Path.resolve path).1)
    ++ (files.map (·.1) ++ directories).flatMap fun path => (Path.resolve path).2

/-- Is there a directory of these names? Each file and each directory stands in
the directories on the way to it. -/
def isDirectory (t : FileTree) (names : List String) : Bool :=
  names.isEmpty || t.directories.any (names.isPrefixOf ·)
    || t.files.any fun (file, _) => names.isPrefixOf file && names.length < file.length

/-- What stands under these names. -/
def entry (t : FileTree) (names : List String) : FileEntry :=
  if t.isDirectory names then .directory
  else
    match t.files.lookup names with
    | some content => .file content
    | none => .missing

/-- Where a path has led: into the tree, or so many directories above it. -/
inductive Place where
  | within (names : List String)
  | above (n : Nat)
  deriving DecidableEq

/-- The directory above a place. -/
def Place.parent : Place → Place
  | .within [] => .above 1
  | .within names => .within names.dropLast
  | .above n => .above (n + 1)

/-- What stands at a place. -/
def entryAt (t : FileTree) : Place → FileEntry
  | .within names => t.entry names
  | .above _ => .directory

/-- Follows the parts of a path from a directory on. A part only leads on from
a directory, and no name leads on from above the tree. -/
def follow (t : FileTree) (here : Place) : List String → FileEntry
  | [] => t.entryAt here
  | part :: parts =>
    match t.entryAt here with
    | .directory =>
      if part = "" ∨ part = "." then t.follow here parts
      else if part = ".." then t.follow here.parent parts
      else if Path.nameLimit < part.utf8ByteSize then .tooLong
      else
        match here with
        | .within names => t.follow (.within (names ++ [part])) parts
        | .above _ => .missing
    | .missing | .file _ => .missing
    | .tooLong => .tooLong

/-- What stands under a path. A path from the root on starts above the tree. -/
def find (t : FileTree) (path : String) : FileEntry :=
  if path = "" ∨ '\x00' ∈ path.toList then .missing
  else if Path.pathLimit < path.utf8ByteSize then .tooLong
  else t.follow (if path.startsWith "/" then .above 1 else .within []) (Path.parts path)

end FileTree

end TableSink
