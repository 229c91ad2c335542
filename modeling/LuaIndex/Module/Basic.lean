import LuaIndex.Source.DocTag
import LuaIndex.Position
import LuaIndex.Table

namespace LuaIndex

/-- A function of a module with its documentation and the place of its name. -/
structure FunctionInfo where
  name : Text
  title : Text
  detail : Text
  location : Location
  params : Table TagInfo
  returns : List TagInfo
deriving DecidableEq

/-- A module: its name as declared, the file that declares it, and its functions. -/
structure ModuleInfo where
  name : Text
  path : Text
  functions : Table FunctionInfo
deriving DecidableEq

namespace FunctionInfo

/-- One line for each returned value, numbered from `n`. -/
def returnLines (n : Nat) : List TagInfo → Text
  | [] => []
  | r :: rs =>
    "\n\t->".toList ++ Text.ofNat n ++ ". ".toList ++ r.type ++ "\t-- ".toList ++ r.detail ++
      returnLines (n + 1) rs

/-- The signature of a function: its parameters with their types, and a line for each returned
value. -/
def signature (name : Text) (params : List (Text × TagInfo)) (returns : List TagInfo) : Text :=
  "function ".toList ++ name ++ "(".toList ++
    List.intercalate ", ".toList (params.map fun p => p.1 ++ ": ".toList ++ p.2.type) ++
    ")".toList ++ returnLines 1 returns

/-- Text shown as code. -/
def codeBlock (code : Text) : Text :=
  "```lua\n".toList ++ code ++ "\n```\n".toList

/-- The tags of a function as they were written, parameters first. -/
def tags (f : FunctionInfo) : List Text :=
  (f.params.values.map fun i => "@param ".toList ++ i.text) ++
    f.returns.map fun i => "@return ".toList ++ i.text

/-- The documentation page of a function: the signature as code, a rule if `rule` is set, the
description if there is one, and the tags as code if there are any. -/
def page (f : FunctionInfo) (rule : Bool) : Text :=
  codeBlock f.title ++
    (if rule then "---\n".toList else []) ++
    (if f.detail.isEmpty then [] else f.detail ++ "\n".toList) ++
    (if f.tags.isEmpty then [] else codeBlock (List.intercalate "\n".toList f.tags))

end FunctionInfo

end LuaIndex
