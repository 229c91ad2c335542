import LuaIndex.FileTree.Change

namespace LuaIndex

inductive Notice where
  /-- A directory to search is not there. -/
  | noModuleDirectory (path : Text)
  /-- A directory to watch is not there. -/
  | noWatchDirectory (path : Text)
  /-- A module file could not be read. -/
  | unreadable (path : Text) (cause : FileError)
  /-- A change could not be followed. -/
  | notRescanned (path : Text) (cause : FileError)
deriving DecidableEq

namespace Notice

/-- Only a file that cannot be read is an error. -/
def isError : Notice → Bool
  | unreadable _ _ => true
  | _ => false

def message : Notice → Text
  | noModuleDirectory p => "Module directory not found, skipping: ".toList ++ p
  | noWatchDirectory p => "Cannot watch missing directory: ".toList ++ p
  | unreadable p e => "Failed to read module file ".toList ++ p ++ ": ".toList ++ e.message
  | notRescanned p e => "Failed to rescan module file ".toList ++ p ++ ": ".toList ++ e.message

/-- Notices, each on a line of its own. -/
def lines (ns : List Notice) : Text :=
  ns.flatMap fun n => n.message ++ ['\n']

end Notice

namespace Discovery

def luaSuffix : Text :=
  ".lua".toList

/-- The name marks a module file: a Lua file with one of the given endings. Case matters. -/
def isModuleFile (suffixes : List Text) (p : Path) : Bool :=
  p.suffix = luaSuffix && suffixes.any (Text.endsWith p.name)

def isHidden (name : Text) : Bool :=
  name.head? = some '.'

/-- What lies below a place, each by its names from there on. -/
def below (t : FileTree) (place : List Text) : List (List Text) :=
  (t.nodes.filterMap fun e =>
    if place.isPrefixOf e.1 ∧ place ≠ e.1 then some (e.1.drop place.length) else none).eraseDups

/-- A Lua file name with nothing hidden on the way to it. -/
def isCandidate (names : List Text) : Bool :=
  Text.endsWith (names.getLastD []) luaSuffix && !names.any isHidden

/-- How late a search comes to something: nearer things first, and a directory after the files beside
it. -/
def rank (t : FileTree) (place names : List Text) : Nat :=
  2 * names.length + if t.node? (place ++ names) = some .directory then 1 else 0

/-- Puts names with their rank in front of those that come later. -/
def enqueue (next : Nat × List Text) (queue : List (Nat × List Text)) : List (Nat × List Text) :=
  let sooner := fun other => decide (other.1 < next.1)
  queue.takeWhile sooner ++ next :: queue.dropWhile sooner

/-- A search looks at what may be a module file, and at every directory, hidden or not, for it goes
through them all. -/
def isVisited (t : FileTree) (place names : List Text) : Bool :=
  isCandidate names || t.node? (place ++ names) = some .directory

/-- What a search below a place looks at. -/
def visits (t : FileTree) (place : List Text) : List (List Text) :=
  let ranked := ((below t place).filter (isVisited t place)).map fun names =>
    (rank t place names, names)
  (ranked.foldr enqueue []).map Prod.snd

/-- The module files among names below a directory. -/
def keepFiles (t : FileTree) (suffixes : List Text) (directory : Path) :
    List (List Text) → Except FileError (List Path)
  | [] => .ok []
  | names :: rest =>
    let p := directory.child names
    match t.isFile p with
    | .error e => .error e
    | .ok isFile =>
      match keepFiles t suffixes directory rest with
      | .error e => .error e
      | .ok ps => .ok (if isFile && isCandidate names && isModuleFile suffixes p then p :: ps else ps)

/-- The module files at any depth below a directory, in the order of their names. A directory that is
not there has none and is reported. -/
def find (t : FileTree) (suffixes : List Text) (directory : Path) :
    List Notice × Except FileError (List Path) :=
  match t.isDirectory directory with
  | .error e => ([], .error e)
  | .ok false => ([.noModuleDirectory directory.text], .ok [])
  | .ok true =>
    match t.locate directory with
    | .error e => ([], .error e)
    | .ok (place, _) =>
      ([], (keepFiles t suffixes directory (visits t place)).map
        fun ps => ps.mergeSort fun a b => Path.namesLe a.names b.names)

/-- The module files below several directories, in the order in which they are first met; a file
reached in two ways is listed once, as it is met first. `seen` are the absolute paths met before. -/
def findAll (t : FileTree) (suffixes : List Text) (seen : List Path) :
    List Path → List Notice × Except FileError (List Path)
  | [] => ([], .ok [])
  | directory :: rest =>
    match find t suffixes directory with
    | (notices, .error e) => (notices, .error e)
    | (notices, .ok ps) =>
      let (seen', fresh) := pick seen ps
      match findAll t suffixes seen' rest with
      | (more, .error e) => (notices ++ more, .error e)
      | (more, .ok qs) => (notices ++ more, .ok (fresh ++ qs))
where
  /-- The paths that are new, and all absolute paths met. -/
  pick (seen : List Path) : List Path → List Path × List Path
    | [] => (seen, [])
    | p :: ps =>
      let place : Path := ⟨1, t.placeOf p⟩
      if place ∈ seen then pick seen ps
      else
        let (seen', fresh) := pick (place :: seen) ps
        (seen', p :: fresh)

end Discovery

end LuaIndex
