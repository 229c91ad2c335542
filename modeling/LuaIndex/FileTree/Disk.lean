import LuaIndex.FileTree.Change

namespace LuaIndex

/-- What becomes of bytes that are to go into a file. Opening the file for them empties it. -/
inductive Writing where
  | done
  /-- The file is not opened and stays as it is. -/
  | refused (cause : Refusal)
  /-- The file is opened and gets only the first of the bytes. -/
  | brokenOff (kept : Nat) (cause : Refusal)
deriving DecidableEq

/-- What the system does beyond what a tree of files tells. It may not let the program look at a path
that it is given, and it may fail to write. What it lets the program look at it also lets it read and
search. -/
structure Disk where
  /-- Why the system does not tell what is at a path, if it does not: a directory on the way is closed
  to the program, or a device fails. -/
  refusal? : FileTree → Path → Option Refusal
  writing : FileTree → Path → List UInt8 → Writing

namespace Disk

/-- Whether a path leads to a node of some kind, if the system tells. -/
def test (d : Disk) (t : FileTree) (kind : Node → Bool) (p : Path) : Except FileError Bool :=
  match d.refusal? t p with
  | some cause => .error (.refused cause (some p.text))
  | none => t.test kind p

def exists? (d : Disk) (t : FileTree) (p : Path) : Except FileError Bool :=
  d.test t (fun _ => true) p

def isFile (d : Disk) (t : FileTree) (p : Path) : Except FileError Bool :=
  d.test t Node.isFile p

def isDirectory (d : Disk) (t : FileTree) (p : Path) : Except FileError Bool :=
  d.test t (fun n => !Node.isFile n) p

/-- Puts bytes into a file that is there. -/
def overwrite (d : Disk) (t : FileTree) (p : Path) (bytes : List UInt8) :
    FileTree × Except FileError Unit :=
  match t.locate p with
  | .error e => (t, .error e)
  | .ok (_, .directory) => (t, .error (.isDirectory p.text))
  | .ok (place, .file _) =>
    match d.writing t p bytes with
    | .done => (t.put place (.file bytes), .ok ())
    | .refused cause => (t, .error (.refused cause (some p.text)))
    | .brokenOff kept cause => (t.put place (.file (bytes.take kept)), .error (.refused cause none))

/-- The disk that refuses nothing and writes everything. -/
def plain : Disk where
  refusal? _ _ := none
  writing _ _ _ := .done

end Disk

end LuaIndex
