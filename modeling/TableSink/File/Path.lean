/-
File names with directories.
-/

namespace TableSink.Path

/-- The parts of a path between slashes. -/
def parts (path : String) : List String :=
  (path.toList.splitOn '/').map String.ofList

/-- The path as it is shown: without empty parts and without dots that stay
where they are. A path without parts is a dot. -/
def shown (path : String) : String :=
  let names := (parts path).filter fun p => p ≠ "" ∧ p ≠ "."
  let root :=
    if path.startsWith "//" ∧ !path.startsWith "///" then "//"
    else if path.startsWith "/" then "/" else ""
  if root = "" ∧ names.isEmpty then "." else root ++ "/".intercalate names

/-- The longest name of a file, in bytes. -/
def nameLimit : Nat := 255

/-- The longest path, in bytes. -/
def pathLimit : Nat := 4095

/-- The names on the way to what a path names, and the directories that it
leaves again on the way. -/
def resolve (path : String) : List String × List (List String) :=
  (parts path).foldl (fun (here, left) part =>
    if part = "" ∨ part = "." then (here, left)
    else if part = ".." then (here.dropLast, here :: left)
    else (here ++ [part], left)) ([], [])

end TableSink.Path
