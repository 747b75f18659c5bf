/-
The program as it is called from a command line.
-/
import TableSink.CommandLine.Run

namespace TableSink

/-- What stands under a path on this machine. -/
def entryAt (path : String) : IO FileEntry := do
  try
    let content ← IO.FS.readBinFile path
    return .file content.toList
  catch _ =>
    try
      let stream ← IO.FS.Handle.mk (path ++ "/.") .read
      let _ := stream
      return .directory
    catch _ => return .missing

end TableSink

open TableSink in
/-- Runs the program on its arguments. -/
def main (args : List String) : IO UInt32 := do
  let entry ← match CommandLine.read args with
    | .ok { command := .check, arguments := path :: _, .. } => entryAt path
    | _ => pure .missing
  let r := CommandLine.run (fun _ => entry) args
  IO.print r.output.display
  IO.eprint r.errors.display
  match r.ending with
  | .exit code => return UInt32.ofNat code
  | .broken f =>
    IO.eprintln f.message.display
    return 1
