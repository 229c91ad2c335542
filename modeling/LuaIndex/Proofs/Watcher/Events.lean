import LuaIndex.Proofs.Registry.Failures
import LuaIndex.Proofs.Watcher.Tracked

namespace LuaIndex

/-- The paths that an event speaks of. -/
def FileEvent.paths : FileEvent → List Text
  | created path => [path]
  | modified path => [path]
  | deleted path => [path]
  | moved source target => [source, target]

namespace Registry

variable {t : FileTree} {r : Registry} {file : Text}

theorem mem_change_files {f : Text} (h : f ∈ (r.call t (.change file)).files) :
    f ∈ r.files ∨ f = file := by
  rcases change_cases t r file with ⟨hcall, -, -⟩ | ⟨hcall, -⟩ | ⟨hcall, -⟩
  · rw [hcall] at h
    exact Or.inl h
  · rw [hcall] at h
    exact Or.inl (mem_delete_files.mp h).1
  · rw [hcall, update_files] at h
    exact mem_follow_files.mp h

/-- A load follows what was followed before and what it finds. -/
theorem mem_load_files {directories : List Path} {f : Text}
    (h : f ∈ (r.call t (.load directories)).files) :
    f ∈ r.files ∨ ∃ notices ps,
      Discovery.findAll t r.settings.suffixes [] directories = (notices, .ok ps) ∧
        f ∈ ps.map Path.text := by
  cases hf : Discovery.findAll t r.settings.suffixes [] directories with
  | mk notices found =>
    cases found with
    | error e =>
      simp only [call, loadAll, hf] at h
      exact Or.inl h
    | ok ps =>
      simp only [call, loadAll, hf] at h
      rw [scanAll_files (forall_readText_ne hf), mem_foldl_follow_files] at h
      exact h.imp id fun hmem => ⟨notices, ps, rfl, hmem⟩

theorem change_of_failure? {cause : FileError} (h : (r.change t file).failure? = some cause) :
    r.change t file = ⟨r, [], .error cause⟩ := by
  have hexists := (change_failure?_iff t r file cause).mp h
  simp only [change, hexists]

end Registry

namespace Watcher

/-- What a watcher goes through: events, about directories or not, and loads of its registry. -/
inductive Step where
  | event (directory : Bool) (e : FileEvent)
  | load (directories : List Path)

def step (t : FileTree) (w : Watcher) : Step → Watcher
  | .event directory e => (w.handle t directory e).1
  | .load directories => { w with registry := w.registry.call t (.load directories) }

/-- The watcher after steps, each with the files as they are at its time. -/
def run (w : Watcher) (steps : List (FileTree × Step)) : Watcher :=
  steps.foldl (fun w s => w.step s.1 s.2) w

variable {t : FileTree} {w : Watcher} {raw file : Text}

theorem moduleFile?_eq_some_iff : w.moduleFile? raw = some file ↔
    Discovery.isModuleFile w.suffixes (.ofText raw) = true ∧ file = (Path.ofText raw).text := by
  unfold moduleFile?
  dsimp only
  split
  case isTrue hmodule => simp [hmodule, eq_comm]
  case isFalse hmodule => simp [hmodule]

theorem moduleFile?_eq_none (h : Discovery.isModuleFile w.suffixes (.ofText raw) = false) :
    w.moduleFile? raw = none := by
  simp [moduleFile?, h]

theorem onChange_of_not_module (h : Discovery.isModuleFile w.suffixes (.ofText raw) = false) :
    w.onChange t raw = (w, []) := by
  simp only [onChange, moduleFile?_eq_none h]

theorem onDelete_of_not_module (h : Discovery.isModuleFile w.suffixes (.ofText raw) = false) :
    w.onDelete raw = w := by
  simp only [onDelete, moduleFile?_eq_none h]

/-- A change of a module file is made and counted; one that fails is reported and does nothing else. -/
theorem onChange_of_module (h : w.moduleFile? raw = some file) :
    w.onChange t raw =
      match (w.registry.change t file).failure? with
      | none => ({ w with
          registry := w.registry.call t (.change file)
          updated := w.updated + 1 }, (w.registry.change t file).notices)
      | some cause => (w, [.notRescanned file cause]) := by
  cases hf : (w.registry.change t file).failure? with
  | some cause => simp only [onChange, h, Registry.change_of_failure? hf, List.nil_append]
  | none =>
    simp only [onChange, h]
    cases hr : (w.registry.change t file).result with
    | error e => simp [Outcome.failure?, hr] at hf
    | ok found => rfl

/-- A move does what a deletion of its source and then a change of its target do. -/
theorem onMove_eq (t : FileTree) (w : Watcher) (source target : Text) :
    w.onMove t source target = (w.onDelete source).onChange t target := by
  unfold onMove onDelete
  cases w.moduleFile? source with
  | none => rfl
  | some old => rfl

theorem handle_of_not_module {e : FileEvent}
    (h : ∀ path ∈ e.paths, Discovery.isModuleFile w.suffixes (.ofText path) = false) :
    w.handle t false e = (w, []) := by
  cases e with
  | created path => exact onChange_of_not_module (h path (by simp [FileEvent.paths]))
  | modified path => exact onChange_of_not_module (h path (by simp [FileEvent.paths]))
  | deleted path =>
    have hsame := onDelete_of_not_module (h path (by simp [FileEvent.paths]))
    exact Prod.ext hsame rfl
  | moved source target =>
    have hsame := onDelete_of_not_module (h source (by simp [FileEvent.paths]))
    change w.onMove t source target = (w, [])
    rw [onMove_eq, hsame]
    exact onChange_of_not_module (h target (by simp [FileEvent.paths]))

/-- What loads, changes and deletions keep, steps keep. -/
theorem step_preserves {P : Watcher → Prop} (h : P w)
    (hload : ∀ directories, P { w with registry := w.registry.call t (.load directories) })
    (hchange : ∀ w raw, P w → P (w.onChange t raw).1)
    (hdelete : ∀ w raw, P w → P (w.onDelete raw)) (s : Step) : P (w.step t s) := by
  cases s with
  | load directories => exact hload directories
  | event directory e =>
    cases directory with
    | true => exact h
    | false =>
      cases e with
      | created path => exact hchange w path h
      | modified path => exact hchange w path h
      | deleted path => exact hdelete w path h
      | moved source target =>
        have hmove := hchange _ target (hdelete w source h)
        rw [← onMove_eq] at hmove
        exact hmove

/-- The registry follows module files only, by the endings that it shares with the watcher. -/
structure FollowsModules (w : Watcher) : Prop where
  suffixes : w.registry.settings.suffixes = w.suffixes
  files : ∀ f ∈ w.registry.files, Discovery.isModuleFile w.suffixes (.ofText f) = true

theorem followsModules_empty (settings : Settings) :
    FollowsModules (ofRegistry (.empty settings)) := by
  refine ⟨rfl, fun f hf => ?_⟩
  cases hf

theorem FollowsModules.onDelete (h : FollowsModules w) (raw : Text) :
    FollowsModules (w.onDelete raw) := by
  unfold Watcher.onDelete
  cases w.moduleFile? raw with
  | none => exact h
  | some file =>
    have hsettings := Registry.occur_settings w.registry (.delete file)
    refine ⟨(congrArg Settings.suffixes hsettings).trans h.suffixes, fun f hf => ?_⟩
    exact h.files f (Registry.mem_delete_files.mp hf).1

theorem FollowsModules.onChange (h : FollowsModules w) (raw : Text) :
    FollowsModules (w.onChange t raw).1 := by
  cases hm : w.moduleFile? raw with
  | none => simpa only [Watcher.onChange, hm] using h
  | some file =>
    rw [onChange_of_module hm]
    cases (w.registry.change t file).failure? with
    | some cause => exact h
    | none =>
      obtain ⟨hmodule, rfl⟩ := moduleFile?_eq_some_iff.mp hm
      have hsettings := Registry.call_settings t w.registry (.change (Path.ofText raw).text)
      refine ⟨(congrArg Settings.suffixes hsettings).trans h.suffixes, fun f hf => ?_⟩
      rcases Registry.mem_change_files hf with hold | rfl
      · exact h.files f hold
      · rw [Path.ofText_text_ofText]
        exact hmodule

/-- A step keeps to module files. -/
theorem FollowsModules.step (h : FollowsModules w) (ht : t.SlashFree) (s : Step) :
    FollowsModules (w.step t s) := by
  refine step_preserves h ?_ (fun _ raw h => h.onChange raw) (fun _ raw h => h.onDelete raw) s
  intro directories
  have hsettings := Registry.call_settings t w.registry (.load directories)
  refine ⟨(congrArg Settings.suffixes hsettings).trans h.suffixes, fun f hf => ?_⟩
  rcases Registry.mem_load_files hf with hold | ⟨notices, ps, hfound, hmem⟩
  · exact h.files f hold
  · obtain ⟨p, hp, rfl⟩ := List.mem_map.mp hmem
    have hmodule := Discovery.isModuleFile_of_mem_findAll ht hfound hp
    rw [h.suffixes] at hmodule
    exact hmodule

theorem FollowsModules.run (h : FollowsModules w) {steps : List (FileTree × Step)}
    (hs : ∀ s ∈ steps, s.1.SlashFree) : FollowsModules (w.run steps) := by
  induction steps generalizing w with
  | nil => exact h
  | cons s steps ih =>
    have hfirst := h.step (hs s List.mem_cons_self) s.2
    exact ih hfirst fun x hx => hs x (List.mem_cons_of_mem s hx)

theorem onDelete_suffixes (w : Watcher) (raw : Text) : (w.onDelete raw).suffixes = w.suffixes := by
  unfold onDelete
  cases w.moduleFile? raw <;> rfl

theorem onChange_suffixes (t : FileTree) (w : Watcher) (raw : Text) :
    (w.onChange t raw).1.suffixes = w.suffixes := by
  unfold onChange
  cases w.moduleFile? raw with
  | none => rfl
  | some file =>
    dsimp only
    split <;> rfl

theorem step_suffixes (t : FileTree) (w : Watcher) (s : Step) :
    (w.step t s).suffixes = w.suffixes := by
  refine step_preserves (P := fun v => v.suffixes = w.suffixes) rfl (fun _ => rfl) ?_ ?_ s
  · intro v raw h
    exact (onChange_suffixes t v raw).trans h
  · intro v raw h
    exact (onDelete_suffixes v raw).trans h

theorem run_suffixes (w : Watcher) (steps : List (FileTree × Step)) :
    (w.run steps).suffixes = w.suffixes := by
  induction steps generalizing w with
  | nil => rfl
  | cons s steps ih => exact (ih (w.step s.1 s.2)).trans (step_suffixes s.1 w s.2)

/-- Events about directories, and about paths that are not those of module files, do nothing. A deletion
of a module file is a deletion from the registry; its creation or modification is a change there, and if
that fails it is reported and nothing else happens. A move is a deletion of its source followed by a
creation of its target. So, while no name on the disk has a slash, a registry that is filled by loads and
events follows module files only. -/
theorem events_delete_and_change (t : FileTree) (w : Watcher) :
    (∀ e, w.handle t true e = (w, [])) ∧
      (∀ e : FileEvent,
        (∀ path ∈ e.paths, Discovery.isModuleFile w.suffixes (.ofText path) = false) →
          w.handle t false e = (w, [])) ∧
      (∀ raw file, w.moduleFile? raw = some file →
        w.handle t false (.deleted raw) = ({ w with
          registry := w.registry.call t (.delete file)
          dropped := w.dropped + 1 }, []) ∧
        ∀ e, e = .created raw ∨ e = .modified raw →
          w.handle t false e =
            match (w.registry.change t file).failure? with
            | none => ({ w with
                registry := w.registry.call t (.change file)
                updated := w.updated + 1 }, (w.registry.change t file).notices)
            | some cause => (w, [.notRescanned file cause])) ∧
      (∀ directory source target,
        w.handle t directory (.moved source target) =
          (w.handle t directory (.deleted source)).1.handle t directory (.created target)) ∧
      ∀ settings steps, (∀ s ∈ steps, s.1.SlashFree) →
        ∀ file ∈ ((ofRegistry (.empty settings)).run steps).registry.files,
          Discovery.isModuleFile settings.suffixes (.ofText file) = true := by
  refine ⟨fun e => rfl, fun e => handle_of_not_module, ?_, ?_, ?_⟩
  · intro raw file hmodule
    constructor
    · simp only [handle, onDelete, hmodule]
      rfl
    · rintro e (rfl | rfl)
      · exact onChange_of_module hmodule
      · exact onChange_of_module hmodule
  · intro directory source target
    cases directory with
    | true => rfl
    | false => exact onMove_eq t w source target
  · intro settings steps hs file hfile
    have hrun := (followsModules_empty settings).run hs
    have hfollows := hrun.files file hfile
    rw [run_suffixes] at hfollows
    exact hfollows

/-- A name with the ending of module files that is too long for any disk. -/
def tooLongName : Text :=
  List.replicate 256 'x' ++ "M.lua".toList

/-- A load and three events: the file of the load is moved away, a hidden one comes into being, and a
change of one that no disk can hold fails. -/
def busySteps : List (FileTree × Step) :=
  [(hiddenCache, .load [.ofText "src".toList]),
    (hiddenCache, .event false (.moved "src/aM.lua".toList "src/notes.txt".toList)),
    (hiddenCache, .event false (.created "src/.git/bM.lua".toList)),
    (hiddenCache, .event false (.modified tooLongName))]

def busyWatcher : Watcher :=
  (ofRegistry (.empty .default)).run busySteps

/-- What the steps leave is followed and counted, and what comes next is ignored or reported. -/
theorem events_after_load :
    busyWatcher.registry.files = ["src/.git/bM.lua".toList] ∧
      busyWatcher.updated = 1 ∧ busyWatcher.dropped = 1 ∧
      (∀ file ∈ busyWatcher.registry.files,
        Discovery.isModuleFile Settings.default.suffixes (.ofText file) = true) ∧
      busyWatcher.handle hiddenCache false (.modified "src/notes.txt".toList) = (busyWatcher, []) ∧
      busyWatcher.handle hiddenCache false (.modified tooLongName) =
        (busyWatcher, [.notRescanned tooLongName (.nameTooLong tooLongName)]) := by
  obtain ⟨-, hother, hmodule, -, hrun⟩ := events_delete_and_change hiddenCache busyWatcher
  have hslash : ∀ s ∈ busySteps, s.1.SlashFree := by decide +kernel
  have hquiet : ∀ path ∈ (FileEvent.modified "src/notes.txt".toList).paths,
      Discovery.isModuleFile busyWatcher.suffixes (.ofText path) = false := by
    decide +kernel
  have hlong : busyWatcher.moduleFile? tooLongName = some tooLongName := by decide +kernel
  have hfail : (busyWatcher.registry.change hiddenCache tooLongName).failure? =
      some (.nameTooLong tooLongName) := by
    decide +kernel
  have hchange := (hmodule _ _ hlong).2 (.modified tooLongName) (Or.inr rfl)
  rw [hfail] at hchange
  have hfollows := hrun .default busySteps hslash
  rw [show (ofRegistry (.empty .default)).run busySteps = busyWatcher from rfl] at hfollows
  exact ⟨by decide +kernel, by decide +kernel, by decide +kernel, hfollows, hother _ hquiet, hchange⟩

end Watcher

end LuaIndex
