import LuaIndex.Conversion
import LuaIndex.FileTree.Disk

namespace LuaIndex

/-- What became of a file. -/
structure Converted where
  path : Text
  changed : Bool
  message : Text
  edits : List Edit
  newSource : Option Text
deriving DecidableEq

inductive ConvertError where
  /-- There is no file at the path, which is reported as it was given. -/
  | notFile (path : Text)
  | file (cause : FileError)
  | edit (cause : EditError)
  /-- The text was edited, but no module statement is found in it when its name is to be reported. -/
  | noStatement
deriving DecidableEq

namespace ConvertError

def message : ConvertError → Text
  | notFile path => "File not found: ".toList ++ path
  | file cause => cause.message
  | edit cause => cause.message
  | noStatement => "'NoneType' object has no attribute 'group'".toList

/-- A path that cannot be read or written, or a text that cannot be decoded. -/
def isExpected : ConvertError → Bool
  | notFile _ => true
  | file .nullCharacter => false
  | file _ => true
  | edit _ => false
  | noStatement => false

end ConvertError

namespace Converted

/-- The report on a file that needs no edits. -/
def untouched (p : Path) : Converted :=
  ⟨p.text, false, "[".toList ++ p.name ++ "] requires no changes".toList, [], none⟩

/-- The report on a file whose text was edited. -/
def edited (p : Path) (source : Text) (edits : List Edit) (text : Text) :
    Except ConvertError Converted :=
  match Conversion.moduleName? source with
  | none => .error .noStatement
  | some module =>
    .ok ⟨p.text, true, "Converted ".toList ++ p.name ++ " to module ".toList ++ module, edits, some text⟩

end Converted

namespace FileTree

/-- Puts a new text into a file, unless the run is dry. -/
def save (disk : Disk) (t : FileTree) (p : Path) (text : Text) (dryRun : Bool) :
    FileTree × Except FileError Unit :=
  if dryRun then (t, .ok ()) else disk.overwrite t p (Utf8.encode text)

/-- Converts a file, or with `dryRun` only tells what would become of it. Line breaks stay as they
are. -/
def convert (disk : Disk) (t : FileTree) (path : Text) (dryRun : Bool) :
    FileTree × Except ConvertError Converted :=
  let p := Path.ofText path
  match disk.isFile t p with
  | .error e => (t, .error (.file e))
  | .ok false => (t, .error (.notFile path))
  | .ok true =>
    match t.readRaw p with
    | .error e => (t, .error (.file e))
    | .ok source =>
      match Conversion.edits source with
      | .error e => (t, .error (.edit e))
      | .ok [] => (t, .ok (.untouched p))
      | .ok (e :: es) =>
        match Edit.applyAll source (e :: es) with
        | .error e => (t, .error (.edit e))
        | .ok text =>
          match t.save disk p text dryRun with
          | (t', .error e) => (t', .error (.file e))
          | (t', .ok ()) => (t', Converted.edited p source (e :: es) text)

end FileTree

end LuaIndex
