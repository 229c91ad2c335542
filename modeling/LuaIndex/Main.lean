import LuaIndex.Command.Run
import LuaIndex.Library.Standard

namespace LuaIndex.Files

/-- Adds what the disk holds at a path: a file, or a directory with what is below it down to some
depth. -/
def takeUp (t : FileTree) (path : Path) : Nat → IO FileTree
  | 0 => do
    match ← (IO.FS.realPath (String.ofList path.text)).toBaseIO with
    | .error _ => return t
    | .ok real =>
      if ← real.isDir then return t.makeDirectory path
      else return t.write path (← IO.FS.readBinFile real).toList
  | depth + 1 => do
    let mut tree ← takeUp t path 0
    match ← (IO.FS.realPath (String.ofList path.text)).toBaseIO with
    | .error _ => return tree
    | .ok real =>
      if ← real.isDir then
        for entry in ← real.readDir do
          tree ← takeUp tree (path.child [entry.fileName.toList]) depth
      return tree

/-- Writes the file at a path if the tree holds other bytes than before. -/
def handBack (old new : FileTree) (path : Path) : IO Unit := do
  match new.bytes? path with
  | some bytes =>
    if old.bytes? path ≠ some bytes then
      IO.FS.writeBinFile (String.ofList path.text) ⟨bytes.toArray⟩
  | none => return ()

end LuaIndex.Files

/-- The host that the program runs on. Its stack has room for so many levels. -/
def LuaIndex.host : LuaIndex.Host :=
  .standard 485

open LuaIndex in
def main (args : List String) : IO UInt32 := do
  let args := args.map String.toList
  let mut tree := FileTree.empty (Path.ofText (← IO.currentDir).toString.toList).names
  for p in Command.places args do
    tree ← Files.takeUp tree p 1
  for p in Command.searched host tree args do
    tree ← Files.takeUp tree p FileTree.pathLimit
  let (changed, response) := Command.run host tree args
  for p in Command.places args do
    Files.handBack tree changed p
  IO.print (String.ofList response.stdout)
  IO.eprint (String.ofList (Command.stderr host tree args response))
  match response.escaped with
  | some e => IO.eprintln (String.ofList e.message)
  | none => pure ()
  return response.exit.toUInt32
