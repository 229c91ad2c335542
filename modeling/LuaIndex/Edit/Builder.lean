import LuaIndex.Edit.Basic

namespace LuaIndex

/-- A text and the edits accepted for it, oldest first. -/
structure EditBuilder where
  source : Text
  accepted : List Edit

namespace EditBuilder

def ofSource (source : Text) : EditBuilder :=
  ⟨source, []⟩

/-- Accepts an edit unless it overlaps one accepted before; the oldest of those is reported. -/
def add (b : EditBuilder) (e : Edit) : Except EditError EditBuilder :=
  match b.accepted.find? fun a => a.range.overlaps e.range with
  | some a => .error (.overlapAt e.range.start a.range.start)
  | none => .ok { b with accepted := b.accepted ++ [e] }

def addAll (b : EditBuilder) : List Edit → Except EditError EditBuilder
  | [] => .ok b
  | e :: es =>
    match b.add e with
    | .error err => .error err
    | .ok b' => b'.addAll es

def replace (b : EditBuilder) (r : Range) (text : Text) : Except EditError EditBuilder :=
  b.add ⟨r, text⟩

def insert (b : EditBuilder) (p : Position) (text : Text) : Except EditError EditBuilder :=
  b.add ⟨⟨p, p⟩, text⟩

/-- The accepted edits in document order. -/
def edits (b : EditBuilder) : List Edit :=
  b.accepted.mergeSort fun x y => x.range.le y.range

def size (b : EditBuilder) : Nat :=
  b.accepted.length

/-- The text after all accepted edits. -/
def apply (b : EditBuilder) : Except EditError Text :=
  Edit.applyAll b.source b.accepted

end EditBuilder

end LuaIndex
