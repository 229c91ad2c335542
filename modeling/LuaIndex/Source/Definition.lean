import LuaIndex.Text.Classes
import LuaIndex.Position

namespace LuaIndex.Definition

def keyword : Text :=
  "function".toList

/-- The keyword, white space, a name, possibly white space, and an opening parenthesis. -/
def read? (t : Text) : Option Span :=
  match Text.after keyword t with
  | some tail =>
    let gap := tail.takeWhile Text.isBlank
    let body := tail.dropWhile Text.isBlank
    let name := body.takeWhile Text.isWord
    if gap.isEmpty || name.isEmpty then none
    else match (body.dropWhile Text.isWord).dropWhile Text.isBlank with
      | '(' :: _ =>
        let start := keyword.length + gap.length
        some ⟨name, start, start + name.length⟩
      | _ => none
  | none => none

/-- The first definition on a line. -/
def find? (line : Text) : Option Span :=
  (Text.search read? 0 line).map fun m => m.2.shift m.1

/-- A definition that starts its line: not indented and not `local`. -/
def findTopLevel? (line : Text) : Option Span :=
  read? line

end LuaIndex.Definition
