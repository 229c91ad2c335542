import LuaIndex.Source.DocTag

namespace LuaIndex

/-- What the lines of a comment document, each kind in the order of the lines. -/
structure DocComment where
  params : List (Text × TagInfo)
  returns : List TagInfo
  detail : List Text
deriving DecidableEq

namespace DocComment

def empty : DocComment :=
  ⟨[], [], []⟩

/-- Adds a line that stands above those collected so far. A malformed tag adds nothing. -/
def addAbove (d : DocComment) : Option DocTag → DocComment
  | none => d
  | some (.param name info) => { d with params := (name, info) :: d.params }
  | some (.returned info) => { d with returns := info :: d.returns }
  | some (.description text) => { d with detail := text :: d.detail }

/-- Walks up at most `limit` lines, nearest first, and stops at the first that is no comment. -/
def walkUp (d : DocComment) : (limit : Nat) → (above : List Text) → DocComment
  | 0, _ => d
  | _ + 1, [] => d
  | limit + 1, line :: above =>
    if DocTag.isComment line then (d.addAbove (DocTag.classify? line)).walkUp limit above else d

/-- The comment that belongs to a definition below the given lines, which come nearest first. -/
def collect (limit : Nat) (above : List Text) : DocComment :=
  empty.walkUp limit above

end DocComment

end LuaIndex
