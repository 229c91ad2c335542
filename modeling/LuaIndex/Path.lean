import LuaIndex.Text.Basic

namespace LuaIndex

/-- A path with no, one or two leading slashes; three or more are as one. -/
structure Path where
  slashes : Nat
  names : List Text
deriving DecidableEq

namespace Path

/-- The parts between slashes. -/
def parts : Text → List Text
  | [] => [[]]
  | c :: rest =>
    if c = '/' then [] :: parts rest
    else match parts rest with
      | [] => [[c]]
      | p :: ps => (c :: p) :: ps

/-- The number of slashes kept of those a path text starts with. -/
def leadingSlashes (t : Text) : Nat :=
  match (t.takeWhile (· = '/')).length with
  | 0 => 0
  | 2 => 2
  | _ => 1

def ofText (t : Text) : Path :=
  ⟨leadingSlashes t, (parts t).filter fun p => p ≠ [] ∧ p ≠ ['.']⟩

/-- The names with slashes between them; an empty relative path is a dot. -/
def text (p : Path) : Text :=
  if p.slashes = 0 ∧ p.names = [] then ['.']
  else List.replicate p.slashes '/' ++ List.intercalate ['/'] p.names

/-- The second path seen from the first; an absolute path stays as it is. -/
def join (p q : Path) : Path :=
  if q.slashes = 0 then ⟨p.slashes, p.names ++ q.names⟩ else q

/-- The path of something at the given names below another. -/
def child (p : Path) (names : List Text) : Path :=
  ⟨p.slashes, p.names ++ names⟩

/-- The last name. -/
def name (p : Path) : Text :=
  p.names.getLastD []

/-- The last name from its last dot on, unless that dot is its first or last character. -/
def suffix (p : Path) : Text :=
  let n := p.name
  let tail := (n.reverse.takeWhile (· ≠ '.')).reverse
  if tail = [] ∨ n.length ≤ tail.length + 1 then [] else '.' :: tail

/-- The path below another, if it is there. -/
def relativeTo? (p root : Path) : Option Path :=
  if p.slashes = root.slashes ∧ root.names.isPrefixOf p.names then
    some ⟨0, p.names.drop root.names.length⟩
  else none

/-- Name lists compared name by name, a list before its continuations. -/
def namesLe : List Text → List Text → Bool
  | [], _ => true
  | _ :: _, [] => false
  | a :: as, b :: bs => if a = b then namesLe as bs else Text.le a b

/-- The names that remain when each pair of dots takes back the name before it. -/
def collapse (names : List Text) : List Text :=
  (names.foldl (fun done n => if n = ['.', '.'] then done.drop 1 else n :: done) []).reverse

end Path

end LuaIndex
