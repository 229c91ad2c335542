import LuaIndex.Source.Declaration
import LuaIndex.Source.Definition
import LuaIndex.Source.CallSite
import LuaIndex.Edit.Builder

namespace LuaIndex.Conversion

/-- What is done to a line before calls are looked at. -/
inductive LineKind where
  /-- The line holds a module statement, which becomes a table. -/
  | statement (span : Span)
  /-- The line starts with a definition, which becomes a field. -/
  | definition (span : Span)
  | other
deriving DecidableEq

def LineKind.of (line : Text) : LineKind :=
  match Declaration.findStatement? line with
  | some span => .statement span
  | none =>
    match Definition.findTopLevel? line with
    | some span => .definition span
    | none => .other

/-- The name as a field of the module's table. -/
def qualified (module name : Text) : Text :=
  module ++ '.' :: name

/-- The text that a module statement becomes. -/
def tableText (name : Text) : Text :=
  name ++ " = \x7b\x7d;".toList

/-- The edits of module statements and top-level definitions, on the lines from number `line` on. -/
def declarationEdits (module : Text) (line : Nat) : List Text → List Edit
  | [] => []
  | l :: ls =>
    let rest := declarationEdits module (line + 1) ls
    match LineKind.of l with
    | .statement span => ⟨span.range line, tableText span.name⟩ :: rest
    | .definition span => ⟨span.range line, qualified module span.name⟩ :: rest
    | .other => rest

/-- The names of the top-level functions, in the order of their lines. -/
def topLevelNames (ls : List Text) : List Text :=
  ls.filterMap fun l =>
    match LineKind.of l with
    | .definition span => some span.name
    | _ => none

/-- The edits of bare calls, on the lines from number `line` on that have no other edit. -/
def callEdits (module : Text) (names : List Text) (line : Nat) : List Text → List Edit
  | [] => []
  | l :: ls =>
    let rest := callEdits module names (line + 1) ls
    match LineKind.of l with
    | .other =>
      (CallSite.find names l).map
        (fun span => ⟨span.range line, qualified module span.name⟩) ++ rest
    | _ => rest

/-- The statement that returns the table: in front of a last line of white space, or after it. -/
def exportEdit (module : Text) (ls : List Text) : Edit :=
  let last := ls.getLastD []
  let line : Int := ls.length - 1
  let statement := "return ".toList ++ module ++ ";\n".toList
  if (Text.strip last).isEmpty then ⟨⟨⟨line, 0⟩, ⟨line, 0⟩⟩, '\n' :: statement⟩
  else ⟨⟨⟨line, last.length⟩, ⟨line, last.length⟩⟩, '\n' :: '\n' :: statement⟩

/-- The module that a source text is converted to: the name in its first statement. -/
def moduleName? (source : Text) : Option Text :=
  (Declaration.findStatement? source).map Span.name

/-- The edits of a conversion in the order in which they are found. -/
def steps (module source : Text) : List Edit :=
  let ls := Text.lines source
  declarationEdits module 0 ls ++ callEdits module (topLevelNames ls) 0 ls ++ [exportEdit module ls]

/-- The edits that convert a source text, in document order; none if it has no module statement. -/
def edits (source : Text) : Except EditError (List Edit) :=
  match moduleName? source with
  | none => .ok []
  | some module => ((EditBuilder.ofSource source).addAll (steps module source)).map EditBuilder.edits

end LuaIndex.Conversion
