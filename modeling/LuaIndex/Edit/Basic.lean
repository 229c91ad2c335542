import LuaIndex.Text.Lines
import LuaIndex.Text.Basic
import LuaIndex.Position

namespace LuaIndex

/-- Put `text` in the place of a range; an empty range makes it an insertion. -/
structure Edit where
  range : Range
  text : Text
deriving DecidableEq

/-- Why edits are refused. -/
inductive EditError where
  /-- An edit that starts at the first point claims text of an accepted one that starts at the second. -/
  | overlapAt (edit accepted : Position)
  /-- An edit that starts at this offset reaches back into the one applied before. -/
  | overlapOffset (offset : Int)
  /-- A line number counts back beyond the first line. -/
  | noSuchLine
deriving DecidableEq

namespace Position

def describe (p : Position) : Text :=
  "Position(line=".toList ++ Text.ofInt p.line ++ ", character=".toList ++
    Text.ofInt p.character ++ ")".toList

end Position

namespace EditError

def message : EditError → Text
  | overlapAt edit accepted =>
    "Edit at ".toList ++ edit.describe ++ " overlaps edit at ".toList ++ accepted.describe
  | overlapOffset offset =>
    "Edit at offset ".toList ++ Text.ofInt offset ++ " overlaps a previous edit".toList
  | noSuchLine => "list index out of range".toList

end EditError

/-- An edit whose range is given by offsets into the whole text. -/
structure Splice where
  start : Int
  stop : Int
  text : Text
deriving DecidableEq

namespace Edit

/-- The offsets at which the lines of a text start, the first at `start`. -/
def lineStarts (start : Nat) : List Text → List Nat
  | [] => []
  | l :: ls => start :: lineStarts (start + l.length + 1) ls

/-- The offset of a point. A line beyond the last stands for the end of the text, a column beyond the
end of its line for that end; a negative line counts from the last line back. -/
def offset (source : Text) (p : Position) : Except EditError Int :=
  let ls := Text.lines source
  let count : Int := ls.length
  if count ≤ p.line then .ok source.length
  else if p.line < -count then .error .noSuchLine
  else
    let index := (if p.line < 0 then count + p.line else p.line).toNat
    match ls[index]?, (lineStarts 0 ls)[index]? with
    | some line, some start => .ok (start + min p.character line.length)
    | _, _ => .error .noSuchLine

def resolve (source : Text) (e : Edit) : Except EditError Splice :=
  match offset source e.range.start with
  | .error err => .error err
  | .ok start =>
    match offset source e.range.stop with
    | .error err => .error err
    | .ok stop => .ok ⟨start, stop, e.text⟩

def resolveAll (source : Text) : List Edit → Except EditError (List Splice)
  | [] => .ok []
  | e :: es =>
    match resolve source e with
    | .error err => .error err
    | .ok s =>
      match resolveAll source es with
      | .error err => .error err
      | .ok ss => .ok (s :: ss)

end Edit

namespace Splice

/-- By start, then by end. -/
def le (a b : Splice) : Bool :=
  a.start < b.start || (a.start == b.start && a.stop ≤ b.stop)

/-- Copies the source from `cursor` on, with each splice put in. -/
def weave (source : Text) (cursor : Int) : List Splice → Except EditError Text
  | [] => .ok (Text.dropTo source cursor)
  | s :: ss =>
    if s.start < cursor then .error (.overlapOffset s.start)
    else
      match weave source s.stop ss with
      | .error err => .error err
      | .ok rest => .ok (Text.cut source cursor s.start ++ s.text ++ rest)

end Splice

namespace Edit

/-- The text after all edits. They apply in the order of their offsets, those of one range in the
order in which they are given; none may start inside what another replaces. -/
def applyAll (source : Text) (edits : List Edit) : Except EditError Text :=
  match resolveAll source edits with
  | .error err => .error err
  | .ok splices => Splice.weave source 0 (splices.mergeSort Splice.le)

end Edit

end LuaIndex
