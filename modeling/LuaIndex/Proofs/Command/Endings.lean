import LuaIndex.Command.Run
import LuaIndex.Library.Standard
import LuaIndex.Proofs.Conversion.InPlace
import LuaIndex.Proofs.Cursor.Definition
import LuaIndex.Proofs.FileTree.Limits
import LuaIndex.Text.Styles

namespace LuaIndex.Command

/-- The text tells of a failure with the exit code. Most are told of as errors, two of the expected ones in
words of their own. -/
def IsComplaint (exit : Nat) (text : Text) : Prop :=
  "Error: ".toList <+: text ∨ exit = 1 ∧ (text = "Warning: please open a file first".toList ∨
    text = "No module function at this position".toList)

/-- The response ends with a complaint on a line of its own. -/
def Response.Complains (r : Response) : Prop :=
  ∃ text, r.complaint = text ++ ['\n'] ∧ IsComplaint r.exit text

/-- Something escapes from the response exactly in an unguarded place, and its exit code is two exactly
after an unexpected failure. Whatever else goes wrong is told. -/
structure Response.Ends (r : Response) (unguarded unexpected : Prop) : Prop where
  escaped : r.escaped ≠ none ↔ unguarded
  exit_eq_two : r.exit = 2 ↔ unexpected
  exit_le_two : r.exit ≤ 2
  complains : r.escaped = none → r.exit ≠ 0 → r.Complains

namespace Response

variable {r : Response} {unguarded unexpected : Prop}

theorem ends_print (t : Text) : (print t).Ends False False :=
  ⟨by simp [print], by simp [print], by simp [print], by simp [print]⟩

theorem ends_echo (t : Text) : (echo t).Ends False False :=
  ends_print _

theorem ends_escape (e : Escape) : (escape e).Ends True False :=
  ⟨by simp [escape], by simp [escape], by simp [escape], by simp [escape]⟩

theorem Ends.congr {unguarded' unexpected' : Prop} (h : r.Ends unguarded unexpected)
    (hg : unguarded ↔ unguarded') (hx : unexpected ↔ unexpected') :
    r.Ends unguarded' unexpected' := by
  rwa [← hg, ← hx]

theorem ends_complain {exit : Nat} {t : Text} (hexit : exit ≤ 2)
    (h : IsComplaint exit (Text.withoutStyles t)) : (complain exit t).Ends False (exit = 2) :=
  ⟨by simp [complain], Iff.rfl, hexit, fun _ _ => ⟨_, rfl, h⟩⟩

/-- What would style a text is taken out of the message alone. -/
theorem isComplaint_error (exit : Nat) (message : Text) :
    IsComplaint exit (Text.withoutStyles ("Error: ".toList ++ message)) := by
  rw [Text.withoutStyles_append (by decide)]
  exact Or.inl (List.prefix_append _ _)

theorem ends_error_one (message : Text) : (error 1 message).Ends False False :=
  (ends_complain (by decide) (isComplaint_error 1 message)).congr Iff.rfl (by simp)

theorem ends_error_two (message : Text) : (error 2 message).Ends False True :=
  (ends_complain (by decide) (isComplaint_error 2 message)).congr Iff.rfl (by simp)

/-- A failure that is told in words of its own. -/
theorem ends_told {t : Text} (hplain : Text.escapeChar ∉ t)
    (h : t = "Warning: please open a file first".toList ∨ t = "No module function at this position".toList) :
    (complain 1 t).Ends False False := by
  have hsame : Text.withoutStyles t = t := Text.withoutStyles_of_not_mem hplain
  have htold : IsComplaint 1 (Text.withoutStyles t) := by
    rw [hsame]
    exact Or.inr ⟨rfl, h⟩
  exact (ends_complain (by decide) htold).congr Iff.rfl (by simp)

theorem ends_notFile : notFile.Ends False False :=
  ends_told (by decide) (Or.inl rfl)

theorem Ends.after (h : r.Ends unguarded unexpected) (before : Text) (notices : List Notice) :
    (r.after before notices).Ends unguarded unexpected :=
  ⟨h.escaped, h.exit_eq_two, h.exit_le_two, h.complains⟩

end Response

variable {host : Host} {disk : Disk} {t : FileTree} {root : Option Text}

/-- The project at a root is opened and searched. -/
def Indexed (host : Host) (t : FileTree) (root : Option Text) (p : Project) : Prop :=
  Project.open? host t (root.map Path.ofText) = .ok p ∧ ∃ counts, (p.index t).result = .ok counts

/-- The root is there, but its project cannot be opened or searched. -/
def ProjectFails (host : Host) (t : FileTree) (root : Option Text) : Prop :=
  (∃ cause, Project.open? host t (root.map Path.ofText) = .error (.settings cause)) ∨
    ∃ p cause, Project.open? host t (root.map Path.ofText) = .ok p ∧ (p.index t).result = .error cause

/-- A missing root is expected, any other failure is not. What goes on with the index has only to keep
from unexpected failures. -/
theorem ends_withIndex {before : Text} {k : Project → Registry → Response}
    {unguarded : Project → Prop}
    (h : ∀ p, Indexed host t root p → (k p (p.index t).registry).Ends (unguarded p) False) :
    (withIndex host t root before k).Ends (∃ p, Indexed host t root p ∧ unguarded p) (ProjectFails host t root) := by
  unfold withIndex Indexed ProjectFails
  cases hopen : Project.open? host t (root.map Path.ofText) with
  | error e =>
    cases e with
    | noRoot path => exact (Response.ends_error_one _).congr (by simp) (by simp)
    | settings cause => exact (Response.ends_error_two _).congr (by simp) (by simp)
  | ok p =>
    dsimp only
    cases hindex : (p.index t).result with
    | error cause =>
      exact ((Response.ends_error_two _).after before _).congr (by simp [hindex]) (by simp [hindex])
    | ok counts =>
      have hk := h p ⟨hopen, counts, hindex⟩
      exact (hk.after before _).congr (by simp [hindex]) (by simp [hindex])

theorem ends_withIndex_of_guarded {before : Text} {k : Project → Registry → Response}
    (h : ∀ p r, (k p r).Ends False False) :
    (withIndex host t root before k).Ends False (ProjectFails host t root) :=
  (ends_withIndex fun p _ => h p (p.index t).registry).congr (by simp) Iff.rfl

/-- The file can be looked at and has a text. -/
def IsDocument (disk : Disk) (t : FileTree) (file : Text) : Prop :=
  disk.isFile t (.ofText file) = .ok true ∧ ∃ source, t.readText (.ofText file) = .ok source

/-- Whether the path is that of a file is asked unguarded; reading the file is not. -/
theorem ends_withDocument {file : Text} {k : Text → Response} {unexpected : Prop}
    (h : ∀ source, (k source).Ends False unexpected) :
    (withDocument disk t file k).Ends (disk.Hides t (.ofText file))
      (IsDocument disk t file ∧ unexpected) := by
  unfold withDocument IsDocument
  dsimp only
  cases hf : disk.isFile t (.ofText file) with
  | error e =>
    have hhidden := Disk.exists_test_eq_error_iff.mp ⟨e, hf⟩
    exact (Response.ends_escape _).congr (by simp [hhidden]) (by simp)
  | ok isFile =>
    have htold := Disk.not_hides_of_test hf
    cases isFile with
    | false => exact Response.ends_notFile.congr (by simp [htold]) (by simp)
    | true =>
      cases hread : t.readText (.ofText file) with
      | error e => exact (Response.ends_error_one _).congr (by simp [htold]) (by simp)
      | ok source => exact (h source).congr (by simp [htold]) (by simp)

/-- The table of the modules of a project cannot be laid out. -/
def TableFails (host : Host) (t : FileTree) (p : Project) : Prop :=
  ∃ cause, host.table (tableRows p (p.index t).registry) = .error cause

theorem ends_indexTable (p : Project) :
    (indexTable host p (p.index t).registry).Ends (TableFails host t p) False := by
  unfold indexTable TableFails
  cases host.table (tableRows p (p.index t).registry) with
  | error cause => exact (Response.ends_escape _).congr (by simp) Iff.rfl
  | ok table => exact (Response.ends_print _).congr (by simp) Iff.rfl

theorem ends_runIndex (json : Bool) :
    (runIndex host t root json).Ends
      (∃ p, Indexed host t root p ∧ json = false ∧ TableFails host t p) (ProjectFails host t root) := by
  refine ends_withIndex fun p hp => ?_
  cases json with
  | true => exact (Response.ends_print _).congr (by simp) Iff.rfl
  | false => exact (ends_indexTable p).congr (by simp) Iff.rfl

theorem ends_runInfo (module : Text) (function : Option Text) (json : Bool) :
    (runInfo host t module function root json).Ends False (ProjectFails host t root) := by
  refine ends_withIndex_of_guarded fun p r => ?_
  split
  case h_1 => exact Response.ends_error_one _
  case h_2 m hm =>
    split
    case h_1 => exact Response.ends_echo _
    case h_2 name =>
      split
      case h_1 => exact Response.ends_error_one _
      case h_2 f hf => exact Response.ends_echo _

theorem ends_runLocate (target : Text) (json : Bool) :
    (runLocate host t target root json).Ends False ('.' ∈ target ∧ ProjectFails host t root) := by
  unfold runLocate
  split
  case h_1 hsplit =>
    have hdot := Cursor.splitLastDot?_eq_none_iff.mp hsplit
    exact (Response.ends_error_one _).congr Iff.rfl (by simp [hdot])
  case h_2 module function hsplit =>
    obtain ⟨htarget, -⟩ := Cursor.splitLastDot?_eq_some_iff.mp hsplit
    have hdot : '.' ∈ target := by simp [htarget]
    refine (ends_withIndex_of_guarded fun p r => ?_).congr Iff.rfl (by simp [hdot])
    split
    case h_1 => exact Response.ends_error_one _
    case h_2 f hf => exact Response.ends_echo _

theorem ends_runHover (file : Text) (line column : Int) :
    (runHover host t file line column root).Ends (host.Hides t (.ofText file))
      (IsDocument host.toDisk t file ∧ ProjectFails host t root) := by
  refine ends_withDocument fun source => ends_withIndex_of_guarded fun p r => ?_
  split
  case h_1 => exact Response.ends_told (by decide) (Or.inr rfl)
  case h_2 f hf => exact Response.ends_echo _

theorem ends_runComplete (file : Text) (line column : Int) (json : Bool) :
    (runComplete host t file line column root json).Ends (host.Hides t (.ofText file))
      (IsDocument host.toDisk t file ∧ ProjectFails host t root) :=
  ends_withDocument fun _ => ends_withIndex_of_guarded fun _ _ => Response.ends_echo _

/-- Only the system keeps a text from a file that can be read. -/
theorem refused_of_save {p : Path} {source text : Text} {dryRun : Bool} {e : FileError}
    (hread : t.readRaw p = .ok source) (h : (t.save disk p text dryRun).2 = .error e) :
    ∃ cause path, e = .refused cause path := by
  obtain ⟨place, old, hl, -⟩ := FileTree.readRaw_eq_ok_iff.mp hread
  cases dryRun with
  | true => cases h
  | false =>
    have hsave : t.save disk p text false = disk.overwrite t p (Utf8.encode text) := rfl
    rw [hsave, Disk.overwrite_of_file hl] at h
    cases hw : disk.writing t p (Utf8.encode text) with
    | done => simp [hw] at h
    | refused cause =>
      rw [hw] at h
      exact ⟨cause, _, (Except.error.inj h).symm⟩
    | brokenOff kept cause =>
      rw [hw] at h
      exact ⟨cause, _, (Except.error.inj h).symm⟩

/-- What makes a conversion fail is expected: its edits fit, they find the statement again, and no path
with the null character leads to a file. -/
theorem isExpected_of_convert {file : Text} {dryRun : Bool} {cause : ConvertError}
    (hfile : disk.isFile t (.ofText file) = .ok true)
    (h : (t.convert disk file dryRun).2 = .error cause) : cause.isExpected = true := by
  have hnull := FileTree.not_mem_of_test (Disk.test_of_ok hfile)
  cases hread : t.readRaw (.ofText file) with
  | error e =>
    have hconvert : t.convert disk file dryRun = (t, .error (.file e)) := by
      simp only [FileTree.convert, hfile, hread]
    rw [hconvert] at h
    obtain rfl := Except.error.inj h
    have hne : e ≠ .nullCharacter := by
      rintro rfl
      have hnone : t.readText (.ofText file) = .error .nullCharacter := by
        rw [FileTree.readText, hread]
      exact FileTree.readText_ne_nullCharacter hnull hnone
    cases e with
    | nullCharacter => exact absurd rfl hne
    | _ => rfl
  | ok source =>
    have htext : FileTree.HasText disk t (.ofText file) source := ⟨hfile, hread⟩
    cases hm : Conversion.moduleName? source with
    | none =>
      rw [FileTree.convert_of_none htext hm] at h
      cases h
    | some module =>
      obtain ⟨message, es, -, hrun⟩ := FileTree.convert_of_some htext hm
      rw [hrun dryRun] at h
      cases hsave : t.save disk (.ofText file) (Conversion.lineByLine module source) dryRun with
      | mk t' saved =>
        rw [hsave] at h
        cases saved with
        | ok done => cases h
        | error e =>
          obtain ⟨refusal, path, rfl⟩ := refused_of_save hread (congrArg Prod.snd hsave)
          obtain rfl := Except.error.inj h
          rfl

theorem ends_runConvert (file : Text) (dryRun : Bool) :
    (runConvert disk t file dryRun).2.Ends (disk.Hides t (.ofText file)) False := by
  unfold runConvert
  cases hf : disk.isFile t (.ofText file) with
  | error e =>
    have hhidden := Disk.exists_test_eq_error_iff.mp ⟨e, hf⟩
    exact (Response.ends_escape _).congr (by simp [hhidden]) Iff.rfl
  | ok isFile =>
    have htold := Disk.not_hides_of_test hf
    have hguarded : ∀ {r : Response}, r.Ends False False →
        r.Ends (disk.Hides t (.ofText file)) False :=
      fun h => h.congr (by simp [htold]) Iff.rfl
    cases isFile with
    | false => exact hguarded Response.ends_notFile
    | true =>
      cases hc : t.convert disk file dryRun with
      | mk t' result =>
        cases result with
        | ok c => exact hguarded (Response.ends_echo _)
        | error cause =>
          have hexpected := isExpected_of_convert hf (congrArg Prod.snd hc)
          simp only [hexpected, if_true]
          exact hguarded (Response.ends_error_one _)

namespace Request

/-- The commands that do one thing and end. The others go on until they are interrupted. -/
def endsAlone : Request → Bool
  | .watch _ => false
  | .serve => false
  | _ => true

/-- A failure that the command does not look after. -/
def Unguarded (host : Host) (t : FileTree) : Request → Prop
  | .index root json => ∃ p, Indexed host t root p ∧ json = false ∧ TableFails host t p
  | .hover file _ _ _ => host.Hides t (.ofText file)
  | .complete file _ _ _ _ => host.Hides t (.ofText file)
  | .convert file _ => host.Hides t (.ofText file)
  | _ => False

/-- The command gets to a project that cannot be opened or searched. -/
def FailsUnexpectedly (host : Host) (t : FileTree) : Request → Prop
  | .index root _ => ProjectFails host t root
  | .info _ _ root _ => ProjectFails host t root
  | .locate target root _ => '.' ∈ target ∧ ProjectFails host t root
  | .hover file _ _ root => IsDocument host.toDisk t file ∧ ProjectFails host t root
  | .complete file _ _ root _ => IsDocument host.toDisk t file ∧ ProjectFails host t root
  | _ => False

theorem ends_run {r : Request} (h : r.endsAlone = true) :
    (r.run host t).2.Ends (r.Unguarded host t) (r.FailsUnexpectedly host t) := by
  cases r with
  | index root json => exact ends_runIndex json
  | info module function root json => exact ends_runInfo module function json
  | locate target root json => exact ends_runLocate target json
  | hover file line column root => exact ends_runHover file line column
  | complete file line column root json => exact ends_runComplete file line column json
  | convert file dryRun => exact ends_runConvert file dryRun
  | watch root => cases h
  | serve => cases h

end Request

namespace Invocation

/-- A failure that nothing looks after: a path with the null character, or one that the command leaves. -/
def Unguarded (host : Host) (t : FileTree) (i : Invocation) : Prop :=
  i = .nullCharacter ∨ ∃ r, i = .request r ∧ r.Unguarded host t

/-- The line is no proper one, or its project fails. -/
def FailsUnexpectedly (host : Host) (t : FileTree) (i : Invocation) : Prop :=
  i = .help false ∨ i = .usage ∨ ∃ r, i = .request r ∧ r.FailsUnexpectedly host t

/-- The response explains what went wrong, by a page of help or a note on usage if the line is no proper
one, else by a complaint. -/
def ExplainedBy (i : Invocation) (r : Response) : Prop :=
  match i with
  | .help _ => r.stdout = helpMark
  | .usage => r.complaint = usageMark
  | _ => r.Complains

end Invocation

/-- How a line ends whose command ends alone. Something escapes exactly if a path holds the null character or
the command comes to what it does not look after: a table that cannot be laid out, or a file that nobody tells
of. The exit code is two exactly if the line is no proper one or the project fails unexpectedly. If nothing
escapes, an exit code other than zero is explained. -/
theorem escaped_iff_unguarded (host : Host) (t : FileTree) (args : List Text)
    (h : ∀ r, Invocation.ofLine args = .request r → r.endsAlone = true) :
    ((run host t args).2.escaped ≠ none ↔ (Invocation.ofLine args).Unguarded host t) ∧
      ((run host t args).2.exit = 2 ↔ (Invocation.ofLine args).FailsUnexpectedly host t) ∧
      (run host t args).2.exit ≤ 2 ∧
      ((run host t args).2.escaped = none → (run host t args).2.exit ≠ 0 →
        (Invocation.ofLine args).ExplainedBy (run host t args).2) := by
  unfold run
  generalize Invocation.ofLine args = i at h
  cases i with
  | help wanted =>
    cases wanted <;>
      simp [Invocation.run, Invocation.Unguarded, Invocation.FailsUnexpectedly, Invocation.ExplainedBy]
  | version => simp [Invocation.run, Response.print, Invocation.Unguarded, Invocation.FailsUnexpectedly]
  | nothing => simp [Invocation.run, Response.print, Invocation.Unguarded, Invocation.FailsUnexpectedly]
  | usage =>
    simp [Invocation.run, Invocation.Unguarded, Invocation.FailsUnexpectedly, Invocation.ExplainedBy]
  | nullCharacter =>
    simp [Invocation.run, Response.crash, Response.escape, Invocation.Unguarded,
      Invocation.FailsUnexpectedly]
  | request r =>
    have hends : (r.run host t).2.Ends (r.Unguarded host t) (r.FailsUnexpectedly host t) :=
      Request.ends_run (h r rfl)
    have hunguarded : (Invocation.request r).Unguarded host t ↔ r.Unguarded host t := by
      simp [Invocation.Unguarded]
    have hunexpected : (Invocation.request r).FailsUnexpectedly host t ↔ r.FailsUnexpectedly host t := by
      simp [Invocation.FailsUnexpectedly]
    rw [hunguarded, hunexpected]
    exact ⟨hends.escaped, hends.exit_eq_two, hends.exit_le_two, hends.complains⟩

theorem endsAlone_of_ofLine {args : List Text} {r : Request} (h : Invocation.ofLine args = .request r)
    (hr : r.endsAlone = true) {r' : Request} (h' : Invocation.ofLine args = .request r') :
    r'.endsAlone = true := by
  obtain rfl := Invocation.request.inj (h.symm.trans h')
  exact hr

/-- A module whose path reads like a tag that closes nothing. -/
def tagged : FileTree :=
  ⟨[], [(["src".toList], .directory), (["src".toList, "[".toList], .directory),
    (["src".toList, "[".toList, "b]".toList], .directory),
    (["src".toList, "[".toList, "b]".toList, "aM.lua".toList],
      .file (Utf8.encode "module('A')".toList))]⟩

def taggedProject : Project :=
  ⟨⟨1, []⟩, .default⟩

def hoverLine (file : Text) : List Text :=
  ["hover".toList, file, "1".toList, "1".toList]

/-- There a missing file is complained of, but something escapes from the table of modules. -/
theorem tagged_hover_explained_index_escapes :
    (run (.standard 485) tagged (hoverLine "main.lua".toList)).2.Complains ∧
      (run (.standard 485) tagged ["index".toList]).2.escaped ≠ none := by
  have hhover : Invocation.ofLine (hoverLine "main.lua".toList) =
      .request (.hover "main.lua".toList 1 1 none) := by decide +kernel
  have hindex : Invocation.ofLine ["index".toList] = .request (.index none false) := by
    decide +kernel
  constructor
  · have hexplained := (escaped_iff_unguarded (.standard 485) tagged (hoverLine "main.lua".toList)
      fun _ => endsAlone_of_ofLine hhover rfl).2.2.2 (by decide +kernel) (by decide +kernel)
    rw [hhover] at hexplained
    exact hexplained
  · have hopen : Project.open? (.standard 485) tagged none = .ok taggedProject := by decide +kernel
    have hcounts : (taggedProject.index tagged).result = .ok [⟨1, 1⟩] := by decide +kernel
    have hrows : tableRows taggedProject (taggedProject.index tagged).registry =
        [⟨['A'], ['0'], "src/[/b]/aM.lua".toList⟩] := by decide +kernel
    obtain ⟨cause, hcause⟩ : ∃ cause, (Host.standard 485).table
        [⟨['A'], ['0'], "src/[/b]/aM.lua".toList⟩] = .error cause := by
      have hfails : ((Host.standard 485).table [⟨['A'], ['0'], "src/[/b]/aM.lua".toList⟩]).isOk = false := by
        decide +kernel
      cases htable : (Host.standard 485).table [⟨['A'], ['0'], "src/[/b]/aM.lua".toList⟩] with
      | ok table =>
        rw [htable] at hfails
        cases hfails
      | error cause => exact ⟨cause, rfl⟩
    have htable : TableFails (.standard 485) tagged taggedProject := ⟨cause, by rw [hrows, hcause]⟩
    have hescaped := (escaped_iff_unguarded (.standard 485) tagged ["index".toList]
      fun _ => endsAlone_of_ofLine hindex rfl).1
    exact hescaped.mpr (Or.inr ⟨_, hindex, taggedProject, ⟨hopen, _, hcounts⟩, rfl, htable⟩)

/-- From a hover over a file with a name too long something escapes. -/
theorem long_name_escapes :
    (run (.standard 485) tagged (hoverLine (List.replicate 256 'x'))).2 =
      .crash (.file (.nameTooLong (List.replicate 256 'x'))) := by
  decide +kernel

end LuaIndex.Command
