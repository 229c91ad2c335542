import LuaIndex.ConvertFile
import LuaIndex.Proofs.Conversion.Replaced
import LuaIndex.Proofs.Discovery.Listed
import LuaIndex.Proofs.Text.Encoding

namespace LuaIndex

namespace FileTree

variable {t : FileTree}

/-- The text of a file comes from its bytes. -/
theorem readRaw_eq_ok_iff {p : Path} {source : Text} :
    t.readRaw p = .ok source ↔
      ∃ place bytes, t.locate p = .ok (place, .file bytes) ∧ Utf8.decode bytes = .ok source := by
  unfold readRaw readBytes
  cases hl : t.locate p with
  | error e => simp
  | ok found =>
    obtain ⟨place, node⟩ := found
    cases node with
    | directory => simp
    | file bytes => cases hd : Utf8.decode bytes <;> simp [hd]

end FileTree

namespace Conversion

/-- A text with a module statement gets edits. -/
theorem exists_edits_ne_nil {source module : Text} (hm : moduleName? source = some module) :
    ∃ es, edits source = .ok es ∧ es ≠ [] ∧
      Edit.applyAll source es = .ok (lineByLine module source) := by
  obtain ⟨es, hes, htext⟩ := exists_applyAll_edits hm
  refine ⟨es, hes, ?_, htext⟩
  rintro rfl
  have hnone := Declaration.findStatement?_eq_none_iff.mpr (edits_eq_nil_iff.mp hes)
  rw [moduleName?, hnone] at hm
  cases hm

end Conversion

namespace Converted

open Conversion

/-- A conversion of a text with a module statement is reported with the name in it. -/
theorem edited_of_some {p : Path} {source module : Text} (h : moduleName? source = some module)
    (es : List Edit) (text : Text) :
    ∃ message, edited p source es text = .ok ⟨p.text, true, message, es, some text⟩ := by
  unfold edited
  rw [h]
  exact ⟨_, rfl⟩

end Converted

namespace Disk

theorem overwrite_of_file {disk : Disk} {t : FileTree} {p : Path} {place : List Text}
    {old : List UInt8} (h : t.locate p = .ok (place, .file old)) (bytes : List UInt8) :
    disk.overwrite t p bytes =
      match disk.writing t p bytes with
      | .done => (t.put place (.file bytes), .ok ())
      | .refused cause => (t, .error (.refused cause (some p.text)))
      | .brokenOff kept cause =>
        (t.put place (.file (bytes.take kept)), .error (.refused cause none)) := by
  cases hw : disk.writing t p bytes <;> simp only [overwrite, h, hw]

end Disk

namespace FileTree

open Conversion

variable {disk : Disk} {t : FileTree} {path : Text}

/-- The file at a path can be looked at and has a text. -/
def HasText (disk : Disk) (t : FileTree) (p : Path) (source : Text) : Prop :=
  disk.isFile t p = .ok true ∧ t.readRaw p = .ok source

/-- A text without a module statement stays. -/
theorem convert_of_none {source : Text} (h : HasText disk t (.ofText path) source)
    (hm : moduleName? source = none) (dryRun : Bool) :
    t.convert disk path dryRun = (t, .ok (.untouched (.ofText path))) := by
  obtain ⟨hfile, hread⟩ := h
  have hedits : edits source = .ok [] := by simp [edits, hm]
  simp only [convert, hfile, hread, hedits]

/-- A text with one is replaced, unless the run is dry or the disk does not take the new one. -/
theorem convert_of_some {source module : Text} (h : HasText disk t (.ofText path) source)
    (hm : moduleName? source = some module) :
    ∃ message es, es ≠ [] ∧ ∀ dryRun, t.convert disk path dryRun =
      match t.save disk (.ofText path) (lineByLine module source) dryRun with
      | (t', .error e) => (t', .error (.file e))
      | (t', .ok ()) => (t', .ok
          ⟨(Path.ofText path).text, true, message, es, some (lineByLine module source)⟩) := by
  obtain ⟨hfile, hread⟩ := h
  obtain ⟨es, hes, hne, htext⟩ := exists_edits_ne_nil hm
  obtain ⟨message, hreport⟩ :=
    Converted.edited_of_some (p := .ofText path) hm es (lineByLine module source)
  obtain ⟨e, es, rfl⟩ := List.exists_cons_of_ne_nil hne
  refine ⟨message, e :: es, hne, fun dryRun => ?_⟩
  cases hsave : t.save disk (.ofText path) (lineByLine module source) dryRun with
  | mk t' saved => cases saved <;> simp only [convert, hfile, hread, hes, htext, hreport, hsave]

namespace CarriesOut

variable {p : Path} {c : Converted} {run : FileTree × Except ConvertError Converted}

end CarriesOut

end FileTree

end LuaIndex
