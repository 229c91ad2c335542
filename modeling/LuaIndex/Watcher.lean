import LuaIndex.Registry

namespace LuaIndex

/-- Something that happened to a file or, if `directory` is set, to a directory. -/
inductive FileEvent where
  | created (path : Text)
  | modified (path : Text)
  | deleted (path : Text)
  | moved (source target : Text)
deriving DecidableEq

/-- A registry kept current by events about files with the given endings, and how many files it has
rescanned and dropped. -/
structure Watcher where
  registry : Registry
  suffixes : List Text
  updated : Nat
  dropped : Nat
deriving DecidableEq

namespace Watcher

def ofRegistry (r : Registry) : Watcher :=
  ⟨r, r.settings.suffixes, 0, 0⟩

/-- The path as the registry knows it, if it is that of a module file. -/
def moduleFile? (w : Watcher) (path : Text) : Option Text :=
  let p := Path.ofText path
  if Discovery.isModuleFile w.suffixes p then some p.text else none

/-- A file came into being or changed. A failure is reported. -/
def onChange (t : FileTree) (w : Watcher) (path : Text) : Watcher × List Notice :=
  match w.moduleFile? path with
  | none => (w, [])
  | some file =>
    let o := w.registry.change t file
    match o.result with
    | .ok _ => ({ w with registry := o.registry, updated := w.updated + 1 }, o.notices)
    | .error e => ({ w with registry := o.registry }, o.notices ++ [.notRescanned file e])

/-- A file is gone. -/
def onDelete (w : Watcher) (path : Text) : Watcher :=
  match w.moduleFile? path with
  | none => w
  | some file => { w with registry := w.registry.delete file, dropped := w.dropped + 1 }

/-- A file was moved. Its old path is dropped and its new one rescanned, each only if it is that of a
module file. A failure of the rescan is reported. -/
def onMove (t : FileTree) (w : Watcher) (source target : Text) : Watcher × List Notice :=
  let dropped : Watcher :=
    match w.moduleFile? source with
    | none => w
    | some old => { w with registry := w.registry.delete old, dropped := w.dropped + 1 }
  match dropped.moduleFile? target with
  | none => (dropped, [])
  | some new =>
    let o := dropped.registry.change t new
    match o.result with
    | .ok _ => ({ dropped with registry := o.registry, updated := dropped.updated + 1 }, o.notices)
    | .error e => ({ dropped with registry := o.registry }, o.notices ++ [.notRescanned new e])

/-- Follows an event; events about directories are not followed. -/
def handle (t : FileTree) (w : Watcher) (directory : Bool) (e : FileEvent) :
    Watcher × List Notice :=
  if directory then (w, [])
  else match e with
    | .created path => w.onChange t path
    | .modified path => w.onChange t path
    | .deleted path => (w.onDelete path, [])
    | .moved source target => w.onMove t source target

end Watcher

end LuaIndex
