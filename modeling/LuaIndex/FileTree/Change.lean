import LuaIndex.FileTree.Basic

namespace LuaIndex.FileTree

/-- The place that a path stands for, whether anything is there or not. -/
def placeOf (t : FileTree) (p : Path) : List Text :=
  Path.collapse ((if p.slashes = 0 then t.cwd else []) ++ p.names)

/-- Puts a node at a place, in the stead of the one that is there. -/
def put (t : FileTree) (place : List Text) (n : Node) : FileTree :=
  { t with nodes := (place, n) :: t.nodes.filter fun e => e.1 ≠ place }

/-- The place lies at or below another. -/
def covers (top place : List Text) : Bool :=
  top.isPrefixOf place

/-- Takes away a node and all below it. -/
def removeAt (t : FileTree) (place : List Text) : FileTree :=
  { t with nodes := t.nodes.filter fun e => !covers place e.1 }

/-- Follows names from a place on and makes a directory wherever nothing is yet. -/
def makeWayFrom (t : FileTree) (place : List Text) : List Text → FileTree
  | [] => t
  | n :: ns =>
    let next := place ++ [n]
    (if (t.node? next).isSome then t else t.put next .directory).makeWayFrom next ns

/-- Makes a directory at each place on the way to one where nothing is yet. -/
def makeWay (t : FileTree) (place : List Text) : FileTree :=
  t.makeWayFrom [] place

/-- Writes a file, with the directories on the way to it. -/
def write (t : FileTree) (p : Path) (bytes : List UInt8) : FileTree :=
  let place := t.placeOf p
  (t.makeWay place.dropLast).put place (.file bytes)

def makeDirectory (t : FileTree) (p : Path) : FileTree :=
  t.makeWay (t.placeOf p)

def remove (t : FileTree) (p : Path) : FileTree :=
  t.removeAt (t.placeOf p)

/-- Moves a node and all below it, with the directories on the way to the new place. -/
def rename (t : FileTree) (source target : Path) : FileTree :=
  let old := t.placeOf source
  let new := t.placeOf target
  let moved := t.nodes.filterMap fun e =>
    if covers old e.1 then some (new ++ e.1.drop old.length, e.2) else none
  let rest := ((t.removeAt old).removeAt new).makeWay new.dropLast
  { rest with nodes := moved ++ rest.nodes }

/-- The bytes at a path, if a file is there. -/
def bytes? (t : FileTree) (p : Path) : Option (List UInt8) :=
  match t.readBytes p with
  | .ok bytes => some bytes
  | .error _ => none

/-- The tree with a directory to work in and nothing else. -/
def empty (cwd : List Text) : FileTree :=
  (FileTree.mk cwd []).makeWay cwd

end LuaIndex.FileTree
