import LuaIndex.Watcher
import LuaIndex.Proofs.Discovery.Listed
import LuaIndex.Proofs.Registry.Coverage

namespace LuaIndex

/-- A search below a directory lists a path. -/
def Discovery.Lists (t : FileTree) (suffixes : List Text) (directory p : Path) : Prop :=
  ∃ ps, (find t suffixes directory).2 = .ok ps ∧ p ∈ ps

namespace Watcher

variable {t : FileTree} {w : Watcher} {raw : Text}

/-- The registry of a watcher follows the file at a path. -/
def Tracks (w : Watcher) (p : Path) : Prop :=
  p.text ∈ w.registry.files

theorem onChange_files (t : FileTree) (w : Watcher) (hfile : t.isFile (.ofText raw) = .ok true) :
    (w.onChange t raw).1.registry.files =
      if Discovery.isModuleFile w.suffixes (.ofText raw) then
        (w.registry.follow (Path.ofText raw).text).files
      else w.registry.files := by
  by_cases hmodule : Discovery.isModuleFile w.suffixes (.ofText raw) = true
  · have hthere : t.exists? (.ofText (Path.ofText raw).text) = .ok true := by
      rw [Path.ofText_text_ofText]
      exact FileTree.exists_of_isFile hfile
    have hchange : w.registry.change t (Path.ofText raw).text =
        (w.registry.follow (Path.ofText raw).text).update t (Path.ofText raw).text := by
      simp only [Registry.change, hthere]
    simp only [onChange, moduleFile?, if_pos hmodule, hchange]
    split <;> exact Registry.update_files t _ _
  · simp only [onChange, moduleFile?, if_neg hmodule]

/-- An event about a file makes a watcher track it exactly if its name is that of a module file. -/
theorem tracks_handle_iff {e : FileEvent} (hfile : t.isFile (.ofText raw) = .ok true)
    (hnew : ¬ w.Tracks (.ofText raw)) (he : e = .created raw ∨ e = .modified raw) :
    (w.handle t false e).1.Tracks (.ofText raw) ↔
      Discovery.isModuleFile w.suffixes (.ofText raw) = true := by
  have hhandle : w.handle t false e = w.onChange t raw := by
    rcases he with rfl | rfl <;> rfl
  rw [hhandle, Tracks, onChange_files t w hfile]
  split
  case isTrue hmodule => simp [Registry.mem_follow_files, hmodule]
  case isFalse hmodule => exact iff_of_false hnew hmodule

/-- A file that a search lists is tracked once an event about it comes. A file below the directory is
tracked although the search does not list it exactly if its name is that of a module file, and it is
hidden, lies in something hidden, or the search fails as a whole. -/
theorem tracks_not_lists_iff {root : Text} {names : List Text} {e : FileEvent}
    (hroot : t.isDirectory (.ofText root) = .ok true)
    (hbelow : Path.ofText raw = (Path.ofText root).child names)
    (hfile : t.isFile (.ofText raw) = .ok true) (hnew : ¬ w.Tracks (.ofText raw))
    (he : e = .created raw ∨ e = .modified raw) :
    (Discovery.Lists t w.suffixes (.ofText root) (.ofText raw) →
      (w.handle t false e).1.Tracks (.ofText raw)) ∧
    ((w.handle t false e).1.Tracks (.ofText raw) ∧
        ¬ Discovery.Lists t w.suffixes (.ofText root) (.ofText raw) ↔
      Discovery.isModuleFile w.suffixes (.ofText raw) = true ∧
        (names.any Discovery.isHidden = true ∨
          ∃ cause, (Discovery.find t w.suffixes (.ofText root)).2 = .error cause)) := by
  rw [tracks_handle_iff hfile hnew he]
  cases hf : (Discovery.find t w.suffixes (.ofText root)).2 with
  | error cause =>
    have hnone : ¬ Discovery.Lists t w.suffixes (.ofText root) (.ofText raw) := by
      rintro ⟨ps, hps, -⟩
      rw [hf] at hps
      cases hps
    exact ⟨fun h => absurd h hnone, by simp [hnone]⟩
  | ok ps =>
    have hlists : Discovery.Lists t w.suffixes (.ofText root) (.ofText raw) ↔
        Discovery.isModuleFile w.suffixes (.ofText raw) = true ∧
          names.any Discovery.isHidden = false := by
      have hmem := Discovery.mem_find_iff hroot hf (p := .ofText raw)
      constructor
      · rintro ⟨qs, hqs, hin⟩
        rw [hf] at hqs
        obtain rfl := Except.ok.inj hqs
        obtain ⟨-, hmodule, names', hsame, hvisible⟩ := hmem.mp hin
        rw [hbelow] at hsame
        have hnames : names = names' := List.append_cancel_left (congrArg Path.names hsame)
        exact ⟨hmodule, hnames ▸ hvisible⟩
      · rintro ⟨hmodule, hvisible⟩
        exact ⟨ps, hf, hmem.mpr ⟨hfile, hmodule, names, hbelow, hvisible⟩⟩
    rw [hlists]
    refine ⟨And.left, ?_⟩
    cases names.any Discovery.isHidden <;> simp

/-- A directory with a module file and another one in a hidden directory. -/
def hiddenCache : FileTree :=
  ⟨[], [(["src".toList], .directory), (["src".toList, "aM.lua".toList], .file []),
    (["src".toList, ".git".toList], .directory),
    (["src".toList, ".git".toList, "bM.lua".toList], .file [])]⟩

/-- The file that is not hidden is tracked and listed. -/
theorem visible_file_tracked_and_listed :
    ((ofRegistry (.empty .default)).handle hiddenCache false (.created "src/aM.lua".toList)).1.Tracks
      (.ofText "src/aM.lua".toList) ∧
    Discovery.Lists hiddenCache Settings.default.suffixes (.ofText "src".toList)
      (.ofText "src/aM.lua".toList) := by
  have hfind : (Discovery.find hiddenCache Settings.default.suffixes (.ofText "src".toList)).2 =
      .ok [.ofText "src/aM.lua".toList] := by
    decide +kernel
  have hlists : Discovery.Lists hiddenCache Settings.default.suffixes (.ofText "src".toList)
      (.ofText "src/aM.lua".toList) :=
    ⟨_, hfind, List.mem_singleton_self _⟩
  have hagree := @tracks_not_lists_iff hiddenCache (ofRegistry (.empty .default))
    "src/aM.lua".toList "src".toList ["aM.lua".toList] (.created "src/aM.lua".toList)
    (by decide +kernel) (by decide +kernel) (by decide +kernel) List.not_mem_nil (Or.inl rfl)
  exact ⟨hagree.1 hlists, hlists⟩

/-- The hidden one is tracked and not listed. -/
theorem hidden_file_tracked :
    hiddenCache.isFile (.ofText "src/.git/bM.lua".toList) = .ok true ∧
    ¬ (ofRegistry (.empty .default)).Tracks (.ofText "src/.git/bM.lua".toList) ∧
    ((ofRegistry (.empty .default)).handle hiddenCache false
      (.created "src/.git/bM.lua".toList)).1.Tracks (.ofText "src/.git/bM.lua".toList) ∧
    ¬ Discovery.Lists hiddenCache Settings.default.suffixes (.ofText "src".toList)
      (.ofText "src/.git/bM.lua".toList) := by
  refine ⟨by decide +kernel, List.not_mem_nil, ?_, ?_⟩
  · unfold Tracks
    decide +kernel
  · rintro ⟨ps, hps, hmem⟩
    have hfind : (Discovery.find hiddenCache Settings.default.suffixes (.ofText "src".toList)).2 =
        .ok [.ofText "src/aM.lua".toList] := by
      decide +kernel
    rw [hfind] at hps
    obtain rfl := Except.ok.inj hps
    revert hmem
    decide +kernel

end Watcher

end LuaIndex
