import LuaIndex.Registry
import LuaIndex.Text.Basic

namespace LuaIndex

/-- A reference to a function: the module as it is written, and the function. -/
structure Reference where
  moduleName : Text
  function : FunctionInfo
deriving DecidableEq

/-- A function that could be named, with the page that is shown beside it. -/
structure Candidate where
  name : Text
  function : FunctionInfo
  documentation : Text
deriving DecidableEq

namespace Cursor

/-- The line of a document with the given number. -/
def line? (source : Text) (line : Int) : Option Text :=
  if line < 0 then none else (Text.lines source)[line.toNat]?

/-- What stands before and after the last dot of a text. -/
def splitLastDot? (t : Text) : Option (Text × Text) :=
  match t.reverse.dropWhile (· ≠ '.') with
  | [] => none
  | _ :: before => some (before.reverse, (t.reverse.takeWhile (· ≠ '.')).reverse)

/-- The name that a text ends with. -/
def nameAtEnd? (t : Text) : Option Text :=
  let name := (t.reverse.takeWhile Text.isWord).reverse
  if name.isEmpty then none else some name

/-- The name that a text starts with, white space passed over. -/
def nameAtStart? (t : Text) : Option Text :=
  let name := (Text.strip t).takeWhile Text.isWord
  if name.isEmpty then none else some name

/-- The names around the last dot before a column: what the line ends with before the dot, and what
it goes on with after it. -/
def names? (line : Text) (column : Int) : Option (Text × Option Text) :=
  match splitLastDot? (Text.takeTo line column) with
  | none => none
  | some (before, _) =>
    match nameAtEnd? before with
    | none => none
    | some module => some (module, nameAtStart? (line.drop (before.length + 1)))

/-- The module function that is named at a place of a document. -/
def reference? (r : Registry) (source : Text) (line column : Int) : Option Reference := do
  let l ← line? source line
  let (module, name) ← names? l column
  let functions ← r.functions? module
  let f ← functions.get? (← name)
  return ⟨module, f⟩

/-- Where the function that is named at a place of a document is defined. -/
def definition? (r : Registry) (source : Text) (line column : Int) : Option Location :=
  (reference? r source line column).map fun f => f.function.location

/-- A name followed by a dot at the start of a text. -/
def readAccess? (t : Text) : Option Text :=
  let name := t.takeWhile Text.isWord
  match name, t.dropWhile Text.isWord with
  | _ :: _, '.' :: _ => some name
  | _, _ => none

/-- The module whose functions are completed: the first name before the column that a dot follows. -/
def accessed? (line : Text) (column : Int) : Option Text :=
  (Text.search readAccess? 0 (Text.takeTo line column)).map Prod.snd

/-- The functions that could be named at a place of a document, in the order of their table. -/
def completions (r : Registry) (source : Text) (line column : Int) : Table FunctionInfo :=
  match line? source line with
  | none => []
  | some l =>
    match accessed? l column with
    | none => []
    | some module => (r.functions? module).getD []

/-- The candidates at a place of a document. Their pages have no rule. -/
def candidates (r : Registry) (source : Text) (line column : Int) : List Candidate :=
  (completions r source line column).map fun e => ⟨e.1, e.2, e.2.page false⟩

end Cursor

end LuaIndex
