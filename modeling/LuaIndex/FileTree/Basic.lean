import LuaIndex.Text.Utf8
import LuaIndex.Text.Lines
import LuaIndex.Path

namespace LuaIndex

inductive Node where
  | directory
  | file (bytes : List UInt8)
deriving DecidableEq

def Node.isFile : Node → Bool
  | .file _ => true
  | .directory => false

/-- Directories and files by their names from the root on, and the directory that relative paths
start from. Of two nodes at one place the first counts; the root is always a directory. There are no
links, every name is a text, and nothing is closed to the program; what the system may do beyond that
is told by a `Disk`. -/
structure FileTree where
  cwd : List Text
  nodes : List (List Text × Node)

/-- A refusal of the system, with the number that it has for its reason. -/
structure Refusal where
  number : Nat
  reason : Text
deriving DecidableEq

/-- Why a path cannot be read. -/
inductive FileError where
  | missing (path : Text)
  | notDirectory (path : Text)
  | isDirectory (path : Text)
  | nameTooLong (path : Text)
  /-- The path holds the null character, which no path may. -/
  | nullCharacter
  /-- The system refuses for a reason of its own. It names the path unless it had opened the file. -/
  | refused (cause : Refusal) (path : Option Text)
  | undecodable (failure : Utf8.Failure)
deriving DecidableEq

namespace FileError

def message : FileError → Text
  | missing p => "[Errno 2] No such file or directory: ".toList ++ p.quoted
  | notDirectory p => "[Errno 20] Not a directory: ".toList ++ p.quoted
  | isDirectory p => "[Errno 21] Is a directory: ".toList ++ p.quoted
  | nameTooLong p => "[Errno 36] File name too long: ".toList ++ p.quoted
  | nullCharacter => "embedded null byte".toList
  | refused cause p =>
    "[Errno ".toList ++ Text.ofNat cause.number ++ "] ".toList ++ cause.reason ++
      (p.map fun p => ": ".toList ++ p.quoted).getD []
  | undecodable f => f.message

end FileError

namespace FileTree

/-- The longest name, in bytes. -/
def nameLimit : Nat := 255

/-- Paths have fewer bytes than this. -/
def pathLimit : Nat := 4096

/-- The node at a place. -/
def node? (t : FileTree) (place : List Text) : Option Node :=
  if place = [] then some .directory
  else (t.nodes.find? fun e => e.1 = place).map Prod.snd

/-- Why a walk along names stops. -/
inductive Obstacle where
  | missing
  | notDirectory
  | nameTooLong
deriving DecidableEq

/-- The place and node that names lead to from a place with the given node. -/
def walk (t : FileTree) (place : List Text) (node : Node) :
    List Text → Except Obstacle (List Text × Node)
  | [] => .ok (place, node)
  | n :: ns =>
    match node with
    | .file _ => .error .notDirectory
    | .directory =>
      if n = ['.', '.'] then walk t place.dropLast .directory ns
      else if nameLimit < Utf8.size n then .error .nameTooLong
      else
        match t.node? (place ++ [n]) with
        | none => .error .missing
        | some m => walk t (place ++ [n]) m ns

/-- The place and node of a path. -/
def locate (t : FileTree) (p : Path) : Except FileError (List Text × Node) :=
  if Char.ofNat 0 ∈ p.text then .error .nullCharacter
  else if pathLimit ≤ Utf8.size p.text then .error (.nameTooLong p.text)
  else
    match t.walk (if p.slashes = 0 then t.cwd else []) .directory p.names with
    | .ok found => .ok found
    | .error .missing => .error (.missing p.text)
    | .error .notDirectory => .error (.notDirectory p.text)
    | .error .nameTooLong => .error (.nameTooLong p.text)

/-- Whether a path leads to a node of some kind. A name that is too long is an error, any other
obstacle means no. -/
def test (t : FileTree) (kind : Node → Bool) (p : Path) : Except FileError Bool :=
  match t.locate p with
  | .ok (_, n) => .ok (kind n)
  | .error (.nameTooLong q) => .error (.nameTooLong q)
  | .error _ => .ok false

def exists? (t : FileTree) (p : Path) : Except FileError Bool :=
  t.test (fun _ => true) p

def isFile (t : FileTree) (p : Path) : Except FileError Bool :=
  t.test Node.isFile p

def isDirectory (t : FileTree) (p : Path) : Except FileError Bool :=
  t.test (fun n => !Node.isFile n) p

/-- The bytes of a file. -/
def readBytes (t : FileTree) (p : Path) : Except FileError (List UInt8) :=
  match t.locate p with
  | .error e => .error e
  | .ok (_, .directory) => .error (.isDirectory p.text)
  | .ok (_, .file bytes) => .ok bytes

/-- The text of a file, its line breaks as they are. -/
def readRaw (t : FileTree) (p : Path) : Except FileError Text :=
  match t.readBytes p with
  | .error e => .error e
  | .ok bytes =>
    match Utf8.decode bytes with
    | .error f => .error (.undecodable f)
    | .ok text => .ok text

/-- The text of a file, its line breaks brought to one form. -/
def readText (t : FileTree) (p : Path) : Except FileError Text :=
  match t.readRaw p with
  | .error e => .error e
  | .ok text => .ok (Text.plainNewlines text)

/-- The absolute path that a path stands for, names before two dots taken back. -/
def resolve (t : FileTree) (p : Path) : Except FileError Path :=
  if Char.ofNat 0 ∈ p.text then .error .nullCharacter
  else .ok ⟨1, Path.collapse ((if p.slashes = 0 then t.cwd else []) ++ p.names)⟩

end FileTree

end LuaIndex
