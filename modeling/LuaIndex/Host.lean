import LuaIndex.Discovery
import LuaIndex.FileTree.Disk

namespace LuaIndex

/-- A failure in what the program builds on: its kind and what it says. -/
structure Failure where
  kind : Text
  message : Text
deriving DecidableEq

/-- What the text of a settings file says. Entries whose key is no text are left out, and each key
stands for the first entry under it. -/
inductive Data where
  | bool (b : Bool)
  | int (n : Int)
  | text (t : Text)
  | list (items : List Data)
  | mapping (entries : List (Text × Data))
  /-- Anything else, which no setting is made of. -/
  | other

/-- Why a text says nothing. -/
inductive DataFault where
  /-- It is not in the format. -/
  | invalid
  /-- Its reader fails in a way that it does not announce. -/
  | failure (cause : Failure)
deriving DecidableEq

/-- A row of the table of modules. -/
structure Row where
  module : Text
  functions : Text
  path : Text
deriving DecidableEq

/-- What the program is given from outside: the system that it runs on, and the libraries that read its
settings and lay out its output. -/
structure Host extends Disk where
  /-- What the text of a settings file says. -/
  data : Text → Except DataFault Data
  /-- The table of modules as it is printed. -/
  table : List Row → Except Failure Text
  /-- The log of a command line that reports what the notices say. -/
  log : FileTree → List Text → List Notice → Text

end LuaIndex
