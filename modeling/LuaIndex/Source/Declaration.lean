import LuaIndex.Text.Classes
import LuaIndex.Position

namespace LuaIndex

/-- A declaration read from the start of a text: the declared name and what follows the closing
parenthesis. -/
structure Declaration where
  name : Text
  rest : Text

namespace Declaration

def opening : Text :=
  "module(".toList

def isQuote (c : Char) : Bool :=
  c == '"' || c == '\''

/-- What may stand between the name and the closing parenthesis. -/
def isFiller (c : Char) : Bool :=
  c == ',' || c == '.' || Text.isBlank c || Text.isWord c

/-- The opening, a quote, a name, a quote, any filler and a closing parenthesis. The two quotes need
not be the same. -/
def read? (t : Text) : Option Declaration :=
  match Text.after opening t with
  | some (q :: body) =>
    if isQuote q then
      let name := body.takeWhile Text.isWord
      match body.dropWhile Text.isWord with
      | q' :: tail =>
        if isQuote q' && !name.isEmpty then
          match tail.dropWhile isFiller with
          | ')' :: rest => some ⟨name, rest⟩
          | _ => none
        else none
      | [] => none
    else none
  | _ => none

/-- The name of the first declaration in a text. -/
def findName? (t : Text) : Option Text :=
  (Text.search read? 0 t).map fun m => m.2.name

/-- A declaration and its semicolon at the start of a text: the name and the columns they take. -/
def readStatement? (t : Text) : Option Span :=
  match read? t with
  | some ⟨name, ';' :: rest⟩ => some ⟨name, 0, t.length - rest.length⟩
  | _ => none

/-- The first statement in a text, from its first column to the one after its semicolon. -/
def findStatement? (t : Text) : Option Span :=
  (Text.search readStatement? 0 t).map fun m => m.2.shift m.1

end Declaration

end LuaIndex
