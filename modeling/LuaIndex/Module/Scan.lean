import LuaIndex.Source.Declaration
import LuaIndex.Source.Definition
import LuaIndex.Module.Basic
import LuaIndex.Module.DocComment
import LuaIndex.Text.Lines

namespace LuaIndex

/-- How many lines above a definition its comment may reach: a number, or a switch that stands for
one line or none. -/
inductive Lookback where
  | lines (count : Int)
  | switch (on : Bool)
deriving DecidableEq

namespace Lookback

/-- The number of lines looked at; a negative count looks at none. -/
def limit : Lookback → Nat
  | lines count => count.toNat
  | switch on => on.toNat

end Lookback

namespace ModuleInfo

/-- The function defined at a span of a line, documented by the lines above it. -/
def function (limit : Nat) (path : Text) (line : Nat) (above : List Text) (span : Span) :
    FunctionInfo :=
  let doc := DocComment.collect limit above
  { name := span.name
    title := FunctionInfo.signature span.name doc.params doc.returns
    detail := List.intercalate [' '] doc.detail
    location := ⟨path, span.range line⟩
    params := Table.ofList doc.params
    returns := doc.returns }

/-- The functions defined on the lines from number `line` on; `above` are the lines before them,
nearest first. -/
def functionsFrom (limit : Nat) (path : Text) (line : Nat) (above : List Text) :
    List Text → List FunctionInfo
  | [] => []
  | l :: ls =>
    let rest := functionsFrom limit path (line + 1) (l :: above) ls
    match Definition.find? l with
    | some span => function limit path line above span :: rest
    | none => rest

/-- The function table of a source text. A later definition of a name takes the place of an earlier
one. -/
def functionTable (limit : Nat) (path : Text) (source : Text) : Table FunctionInfo :=
  Table.ofList ((functionsFrom limit path 0 [] (Text.lines source)).map fun f => (f.name, f))

/-- The module that a source text declares, if it declares one. -/
def scan? (lookback : Lookback) (path : Text) (source : Text) : Option ModuleInfo :=
  (Declaration.findName? source).map fun name =>
    ⟨name, path, functionTable lookback.limit path source⟩

end ModuleInfo

end LuaIndex
