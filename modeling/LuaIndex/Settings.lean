import LuaIndex.Host
import LuaIndex.Module.Scan

namespace LuaIndex

/-- What is indexed: the directories searched, the file names looked for, and how far above a definition
its comment may reach. -/
structure Settings where
  moduleDirs : List Text
  suffixes : List Text
  lookback : Lookback
deriving DecidableEq

namespace Settings

def default : Settings :=
  ⟨["src".toList], ["M.lua".toList, "Util.lua".toList], .lines 10⟩

/-- The directories searched, seen from a project root. -/
def modulePaths (s : Settings) (root : Path) : List Path :=
  s.moduleDirs.map fun d => root.join (.ofText d)

def fileName : Text :=
  ".luamod".toList

/-- A list of texts: one of nothing else, or a text on its own. -/
def texts? : Data → Option (List Text)
  | .text t => some [t]
  | .list items => items.mapM fun
    | .text t => some t
    | _ => none
  | _ => none

/-- How far comments may reach: a number that is not negative, or a switch. -/
def lookbackOf : Option Data → Lookback
  | some (.int n) => if n < 0 then default.lookback else .lines n
  | some (.bool b) => .switch b
  | _ => default.lookback

/-- The settings among the entries of a mapping. A value of the wrong kind leaves the usual one. -/
def ofEntries (entries : List (Text × Data)) : Settings where
  moduleDirs := ((entries.lookup "module_dirs".toList).bind texts?).getD default.moduleDirs
  suffixes := ((entries.lookup "file_suffixes".toList).bind texts?).getD default.suffixes
  lookback := lookbackOf (entries.lookup "comment_lookback".toList)

/-- The settings that a file says, which it keeps under one key. -/
def ofData : Data → Settings
  | .mapping entries =>
    match entries.lookup "index".toList with
    | none => ofEntries []
    | some (.mapping index) => ofEntries index
    | some _ => default
  | _ => default

end Settings

/-- Why settings cannot be told at all. A file that is merely wrong leaves the usual ones. -/
inductive SettingsError where
  | file (cause : FileError)
  | failure (cause : Failure)
deriving DecidableEq

namespace SettingsError

def message : SettingsError → Text
  | file cause => cause.message
  | failure cause => cause.message

end SettingsError

namespace Settings

/-- The settings of the project at a root; the usual ones if it keeps none or they cannot be read. -/
def load (host : Host) (t : FileTree) (root : Path) : Except SettingsError Settings :=
  let p := root.child [fileName]
  match host.exists? t p with
  | .error e => .error (.file e)
  | .ok false => .ok default
  | .ok true =>
    match t.readText p with
    | .error _ => .ok default
    | .ok text =>
      match host.data text with
      | .ok d => .ok (ofData d)
      | .error .invalid => .ok default
      | .error (.failure cause) => .error (.failure cause)

end Settings

end LuaIndex
