import LuaIndex.Text.Classes
import LuaIndex.Position

namespace LuaIndex.CallSite

/-- The names once each, longest first. -/
def longestFirst (names : List Text) : List Text :=
  names.eraseDups.mergeSort fun a b => b.length ≤ a.length

/-- A bare name may start after this character, or at the start of the line. -/
def admits : Option Char → Bool
  | none => true
  | some c => !(Text.isWord c || c == '.' || c == ':')

/-- The first of the names that a text starts with a call of. -/
def read? (names : List Text) (t : Text) : Option Text :=
  names.find? fun n => Text.startsWith t (n ++ ['('])

/-- The calls on the rest of a line. The first `skip` characters belong to the call found before;
`before` is the last character passed and `column` the number of them. -/
def findFrom (names : List Text) (skip : Nat) (before : Option Char) (column : Nat) :
    Text → List Span
  | [] => []
  | c :: rest =>
    match skip with
    | n + 1 => findFrom names n (some c) (column + 1) rest
    | 0 =>
      match if admits before then read? names (c :: rest) else none with
      | some name =>
        ⟨name, column, column + name.length⟩ ::
          findFrom names name.length (some c) (column + 1) rest
      | none => findFrom names 0 (some c) (column + 1) rest

/-- Every bare call of one of the names on a line, left to right. The search goes on after the
parenthesis of the call found last. -/
def find (names : List Text) (line : Text) : List Span :=
  findFrom (longestFirst names) 0 none 0 line

/-- As `find`, and nothing at all when there is no name to look for. -/
def find? (names : List Text) (line : Text) : Option (List Span) :=
  if names.isEmpty then none else some (find names line)

end LuaIndex.CallSite
