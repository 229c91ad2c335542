import LuaIndex.Registry

namespace LuaIndex

structure Project where
  root : Path
  settings : Settings
deriving DecidableEq

/-- Why a project cannot be opened. -/
inductive ProjectError where
  | noRoot (path : Text)
  | settings (cause : SettingsError)
deriving DecidableEq

namespace ProjectError

def message : ProjectError → Text
  | noRoot path => "Project root not found: ".toList ++ path
  | settings cause => cause.message

/-- A failure to reach a file. -/
def ofFile (e : FileError) : ProjectError :=
  .settings (.file e)

end ProjectError

namespace Project

/-- The absolute path of a root, which must be a directory; without one, of the working directory. -/
def resolveRoot (disk : Disk) (t : FileTree) (root : Option Path) : Except ProjectError Path :=
  match t.resolve (root.getD ⟨0, []⟩) with
  | .error e => .error (.ofFile e)
  | .ok p =>
    match disk.isDirectory t p with
    | .error e => .error (.ofFile e)
    | .ok true => .ok p
    | .ok false => .error (.noRoot p.text)

def open? (host : Host) (t : FileTree) (root : Option Path) : Except ProjectError Project :=
  match resolveRoot host.toDisk t root with
  | .error e => .error e
  | .ok p =>
    match Settings.load host t p with
    | .error e => .error (.settings e)
    | .ok s => .ok ⟨p, s⟩

def directories (p : Project) : List Path :=
  p.settings.modulePaths p.root

/-- A new index of the module files of a project. -/
def index (t : FileTree) (p : Project) : Outcome (List Progress) :=
  (Registry.empty p.settings).loadAll t p.directories

/-- A path below the root is shown from there. -/
def display (p : Project) (path : Text) : Text :=
  match (Path.ofText path).relativeTo? p.root with
  | some q => q.text
  | none => path

end Project

end LuaIndex
