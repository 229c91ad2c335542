import LuaIndex.Proofs.Registry.Coverage

namespace LuaIndex

/-- The failure that an operation hands on. -/
def Outcome.failure? {α : Type} (o : Outcome α) : Option FileError :=
  match o.result with
  | .error cause => some cause
  | .ok _ => none

namespace Registry

/-- Why a call fails, if it does. -/
def failure? (t : FileTree) (r : Registry) : Call → Option FileError
  | .load directories => (r.loadAll t directories).failure?
  | .update file => (r.update t file).failure?
  | .change file => (r.change t file).failure?
  | .delete _ => none
  | .clear => none

variable {t : FileTree} {r : Registry} {file : Text} {cause : FileError}

theorem update_failure?_iff (t : FileTree) (r : Registry) (file : Text) (cause : FileError) :
    (r.update t file).failure? = some cause ↔
      cause = .nullCharacter ∧ t.readText (.ofText file) = .error .nullCharacter := by
  unfold update
  cases hread : t.readText (.ofText file) with
  | ok source => simp [Outcome.failure?]
  | error e => cases e <;> simp [Outcome.failure?, eq_comm]

/-- What is there has a path that a file can have, so that it can be updated. -/
theorem update_failure?_of_exists? (h : t.exists? (.ofText file) = .ok true) (r : Registry) :
    (r.update t file).failure? = none := by
  cases hf : (r.update t file).failure? with
  | none => rfl
  | some cause =>
    have hread := ((update_failure?_iff t r file cause).mp hf).2
    exact absurd hread (FileTree.readText_ne_nullCharacter (FileTree.not_mem_of_test h))

theorem change_failure?_iff (t : FileTree) (r : Registry) (file : Text) (cause : FileError) :
    (r.change t file).failure? = some cause ↔ t.exists? (.ofText file) = .error cause := by
  unfold change
  cases he : t.exists? (.ofText file) with
  | error e => simp [Outcome.failure?]
  | ok there =>
    cases there with
    | false => simp [Outcome.failure?]
    | true => simp [update_failure?_of_exists? he (r.follow file)]

theorem forall_readText_ne {directories : List Path} {notices : List Notice} {ps : List Path}
    (h : Discovery.findAll t r.settings.suffixes [] directories = (notices, .ok ps)) :
    ∀ f ∈ ps.map Path.text, t.readText (.ofText f) ≠ .error .nullCharacter := by
  intro f hmem
  obtain ⟨p, hp, rfl⟩ := List.mem_map.mp hmem
  exact Discovery.readText_found_ne h hp

/-- Files that can be named are scanned without failure. -/
theorem exists_scanAll_result {files : List Text}
    (hread : ∀ f ∈ files, t.readText (.ofText f) ≠ .error .nullCharacter) (r : Registry) :
    ∃ counts, (r.scanAll t files).result = .ok counts := by
  induction files generalizing r with
  | nil => exact ⟨[], rfl⟩
  | cons f rest ih =>
    obtain ⟨found, hf⟩ := exists_update_result (hread f List.mem_cons_self) r
    choose counts hcounts using ih fun g hg => hread g (List.mem_cons_of_mem f hg)
    simp only [scanAll, hf, hcounts]
    exact ⟨_, rfl⟩

theorem load_failure?_iff (t : FileTree) (r : Registry) (directories : List Path)
    (cause : FileError) :
    (r.loadAll t directories).failure? = some cause ↔
      (Discovery.findAll t r.settings.suffixes [] directories).2 = .error cause := by
  unfold loadAll
  cases hf : Discovery.findAll t r.settings.suffixes [] directories with
  | mk notices found =>
    cases found with
    | error e => simp [Outcome.failure?]
    | ok ps =>
      obtain ⟨counts, hcounts⟩ := exists_scanAll_result (forall_readText_ne hf)
        ((ps.map Path.text).foldl follow { r with progress := ⟨0, (ps.map Path.text).length⟩ })
      simp only [Outcome.failure?, hcounts]
      simp

/-- A file that cannot be read keeps its entry. -/
theorem update_of_unreadable (h : t.readText (.ofText file) = .error cause) (r : Registry) :
    (r.update t file).registry = r := by
  unfold update
  rw [h]
  cases cause <;> rfl

theorem call_of_failure? {c : Call} (h : r.failure? t c = some cause) : r.call t c = r := by
  cases c with
  | delete file => cases h
  | clear => cases h
  | update file =>
    have hread := ((update_failure?_iff t r file cause).mp h).2
    exact update_of_unreadable hread r
  | change file =>
    have hexists := (change_failure?_iff t r file cause).mp h
    simp only [call, change, hexists]
  | load directories =>
    have hsearch := (load_failure?_iff t r directories cause).mp h
    simp only [call, loadAll]
    cases hf : Discovery.findAll t r.settings.suffixes [] directories with
    | mk notices found =>
      rw [hf] at hsearch
      dsimp only at hsearch
      simp only [hsearch]

theorem forget_progress (r : Registry) (file : Text) : (r.forget file).progress = r.progress := by
  unfold forget
  cases r.owners.get? file <;> rfl

theorem update_progress (t : FileTree) (r : Registry) (file : Text) :
    (r.update t file).registry.progress = r.progress := by
  unfold update
  cases t.readText (.ofText file) with
  | error e => cases e <;> rfl
  | ok source =>
    simp only [rescan]
    cases ModuleInfo.scan? r.settings.lookback file source <;> exact forget_progress r file

/-- Each file that is scanned counts once. -/
theorem scanAll_progress {files : List Text}
    (hread : ∀ f ∈ files, t.readText (.ofText f) ≠ .error .nullCharacter) (r : Registry) :
    (r.scanAll t files).registry.progress =
      ⟨r.progress.processed + files.length, r.progress.total⟩ := by
  induction files generalizing r with
  | nil => simp [scanAll]
  | cons f rest ih =>
    obtain ⟨found, hf⟩ := exists_update_result (hread f List.mem_cons_self) r
    simp only [scanAll, hf]
    rw [ih fun g hg => hread g (List.mem_cons_of_mem f hg)]
    simp only [update_progress, List.length_cons, Progress.mk.injEq, and_true]
    omega

/-- A load that does not fail ends with as many files scanned as were found. -/
theorem load_progress {directories : List Path}
    (h : r.failure? t (.load directories) = none) :
    ∃ ps, (Discovery.findAll t r.settings.suffixes [] directories).2 = .ok ps ∧
      (r.call t (.load directories)).progress = ⟨ps.length, ps.length⟩ := by
  cases hf : Discovery.findAll t r.settings.suffixes [] directories with
  | mk notices found =>
    cases found with
    | error e =>
      have hfail : (r.loadAll t directories).failure? = some e := by
        rw [load_failure?_iff, hf]
      rw [failure?, hfail] at h
      cases h
    | ok ps =>
      obtain ⟨fs, hfs⟩ := foldl_follow_eq (ps.map Path.text)
        { r with progress := ⟨0, (ps.map Path.text).length⟩ }
      refine ⟨ps, rfl, ?_⟩
      simp only [call, loadAll, hf, hfs]
      rw [scanAll_progress (forall_readText_ne hf)]
      simp

/-- Whatever its state, a registry is not changed by a call that fails, nor by an update of a file that
cannot be read; and a load that does not fail ends with its progress complete, counting every file
found. -/
theorem failed_call_changes_nothing (t : FileTree) (r : Registry) :
    (∀ c cause, r.failure? t c = some cause → r.call t c = r) ∧
      (∀ file cause, t.readText (.ofText file) = .error cause → r.call t (.update file) = r) ∧
      ∀ directories, r.failure? t (.load directories) = none →
        ∃ ps, (Discovery.findAll t r.settings.suffixes [] directories).2 = .ok ps ∧
          (r.call t (.load directories)).progress = ⟨ps.length, ps.length⟩ :=
  ⟨fun _ _ => call_of_failure?, fun _ _ hread => update_of_unreadable hread r,
    fun _ => load_progress⟩

/-- A directory with a module that has no functions. -/
def bareModule : FileTree :=
  ⟨[], [(["src".toList], .directory),
    (["src".toList, "aM.lua".toList], .file (Utf8.encode "module('A')".toList))]⟩

/-- The registry of that directory. -/
def bareLoaded : Registry :=
  (empty .default).call bareModule (.load [.ofText "src".toList])

/-- After a load, another one that fails at its second directory, whose name is too long, changes nothing
although the first directory was searched; nor does an update of what is no file. -/
theorem load_failed_at_second_directory :
    bareLoaded.progress = ⟨1, 1⟩ ∧ bareLoaded.contains "a".toList = true ∧
      bareLoaded.failure? bareModule
          (.load [.ofText "src".toList, .ofText (List.replicate 256 'x')]) =
        some (.nameTooLong (List.replicate 256 'x')) ∧
      bareLoaded.call bareModule (.load [.ofText "src".toList, .ofText (List.replicate 256 'x')]) =
        bareLoaded ∧
      bareLoaded.call bareModule (.update "src".toList) = bareLoaded := by
  have hfound : (empty .default).failure? bareModule (.load [.ofText "src".toList]) = none := by
    decide +kernel
  have hfailed : bareLoaded.failure? bareModule
      (.load [.ofText "src".toList, .ofText (List.replicate 256 'x')]) =
        some (.nameTooLong (List.replicate 256 'x')) := by
    decide +kernel
  have hunreadable : bareModule.readText (.ofText "src".toList) = .error (.isDirectory "src".toList) := by
    decide +kernel
  obtain ⟨ps, hps, hprogress⟩ := (failed_call_changes_nothing bareModule (empty .default)).2.2 _ hfound
  obtain ⟨hload, hupdate, -⟩ := failed_call_changes_nothing bareModule bareLoaded
  have hcount : ps = [.ofText "src/aM.lua".toList] := by
    refine Except.ok.inj (hps.symm.trans ?_)
    decide +kernel
  refine ⟨?_, by decide +kernel, hfailed, hload _ _ hfailed, hupdate _ _ hunreadable⟩
  rw [hcount] at hprogress
  exact hprogress

end Registry

end LuaIndex
