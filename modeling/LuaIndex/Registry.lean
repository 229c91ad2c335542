import LuaIndex.Discovery
import LuaIndex.Settings
import LuaIndex.Text.Lower

namespace LuaIndex

/-- How far a bulk load has come. -/
structure Progress where
  processed : Int
  total : Int
deriving DecidableEq

namespace Progress

def done (p : Progress) : Bool :=
  p.total ≤ p.processed

end Progress

/-- `modules` has the modules by lower-case name, `owners` the lower-case name that each file declared
when it was scanned last, `files` the files followed. -/
structure Registry where
  settings : Settings
  modules : Table ModuleInfo
  owners : Table Text
  files : List Text
  progress : Progress
  watching : Bool
deriving DecidableEq

/-- What an operation leaves behind: the registry, what it reported, and its result or failure. -/
structure Outcome (α : Type) where
  registry : Registry
  notices : List Notice
  result : Except FileError α

namespace Registry

def empty (settings : Settings) : Registry :=
  ⟨settings, [], [], [], ⟨0, 0⟩, false⟩

def size (r : Registry) : Nat :=
  r.modules.length

/-- The module of a name, in whatever case. -/
def module? (r : Registry) (name : Text) : Option ModuleInfo :=
  r.modules.get? (Text.lower name)

def contains (r : Registry) (name : Text) : Bool :=
  (r.module? name).isSome

/-- The functions of a module. -/
def functions? (r : Registry) (name : Text) : Option (Table FunctionInfo) :=
  (r.module? name).map ModuleInfo.functions

/-- The modules in the order of their lower-case names. -/
def sortedModules (r : Registry) : List ModuleInfo :=
  (r.modules.mergeSort fun a b => Text.le a.1 b.1).map Prod.snd

/-- Takes away what a file contributed, unless another file has taken the name over. -/
def forget (r : Registry) (file : Text) : Registry :=
  match r.owners.get? file with
  | none => r
  | some name =>
    { r with
      owners := r.owners.erase file
      modules :=
        match r.modules.get? name with
        | some m => if m.path = file then r.modules.erase name else r.modules
        | none => r.modules }

/-- Enters the module of a file. -/
def enter (r : Registry) (file : Text) (m : ModuleInfo) : Registry :=
  { r with
    modules := r.modules.put (Text.lower m.name) m
    owners := r.owners.put file (Text.lower m.name) }

/-- Replaces what a file contributed by what its text declares. -/
def rescan (r : Registry) (file source : Text) : Registry × Option ModuleInfo :=
  match ModuleInfo.scan? r.settings.lookback file source with
  | none => (r.forget file, none)
  | some m => ((r.forget file).enter file m, some m)

/-- Reads a file and replaces what it contributed. A file that cannot be read keeps its entry and is
reported; only a path that no file can have makes the operation fail. -/
def update (t : FileTree) (r : Registry) (file : Text) : Outcome (Option ModuleInfo) :=
  match t.readText (.ofText file) with
  | .error .nullCharacter => ⟨r, [], .error .nullCharacter⟩
  | .error e => ⟨r, [.unreadable file e], .ok none⟩
  | .ok source =>
    let (r', m) := r.rescan file source
    ⟨r', [], .ok m⟩

/-- Stops following a file and takes away what it contributed. -/
def delete (r : Registry) (file : Text) : Registry :=
  { r with files := r.files.filter (· ≠ file) }.forget file

def follow (r : Registry) (file : Text) : Registry :=
  if r.files.contains file then r else { r with files := r.files ++ [file] }

/-- Follows a change of a file, which may be that it is gone. -/
def change (t : FileTree) (r : Registry) (file : Text) : Outcome (Option ModuleInfo) :=
  match t.exists? (.ofText file) with
  | .error e => ⟨r, [], .error e⟩
  | .ok false => ⟨r.delete file, [], .ok none⟩
  | .ok true => (r.follow file).update t file

/-- Scans files one after the other and counts them. -/
def scanAll (t : FileTree) (r : Registry) : List Text → Outcome (List Progress)
  | [] => ⟨r, [], .ok []⟩
  | file :: rest =>
    let o := r.update t file
    match o.result with
    | .error e => ⟨o.registry, o.notices, .error e⟩
    | .ok _ =>
      let p : Progress := ⟨o.registry.progress.processed + 1, o.registry.progress.total⟩
      let o' := ({ o.registry with progress := p }).scanAll t rest
      ⟨o'.registry, o.notices ++ o'.notices, o'.result.map (p :: ·)⟩

/-- Finds and scans every module file below the directories. The result is the progress after each
file. -/
def loadAll (t : FileTree) (r : Registry) (directories : List Path) : Outcome (List Progress) :=
  match Discovery.findAll t r.settings.suffixes [] directories with
  | (notices, .error e) => ⟨r, notices, .error e⟩
  | (notices, .ok ps) =>
    let files := ps.map Path.text
    let r' := files.foldl follow { r with progress := ⟨0, files.length⟩ }
    let o := r'.scanAll t files
    ⟨o.registry, notices ++ o.notices, o.result⟩

def stopWatching (r : Registry) : Registry :=
  { r with watching := false }

/-- Directories to watch that are not there. -/
def missingDirectories (t : FileTree) : List Path → List Notice × Except FileError Unit
  | [] => ([], .ok ())
  | p :: ps =>
    match t.isDirectory p with
    | .error e => ([], .error e)
    | .ok there =>
      let (notices, result) := missingDirectories t ps
      (if there then notices else .noWatchDirectory p.text :: notices, result)

/-- Starts to watch directories; one that is not there is reported and left out. -/
def watch (t : FileTree) (r : Registry) (directories : List Path) : Outcome Unit :=
  match missingDirectories t directories with
  | (notices, .ok ()) => ⟨{ r with watching := true }, notices, .ok ()⟩
  | (notices, .error e) => ⟨r.stopWatching, notices, .error e⟩

/-- Forgets everything but the settings. -/
def clear (r : Registry) : Registry :=
  empty r.settings

end Registry

end LuaIndex
