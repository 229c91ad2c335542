import LuaIndex.Proofs.Registry.History

namespace LuaIndex.Registry

/-- A time in which the files stay as they are, and the calls made in it. -/
structure Round where
  tree : FileTree
  calls : List Call

def Round.made (round : Round) : List (FileTree × Call) :=
  round.calls.map fun c => (round.tree, c)

def callsOf (rounds : List Round) : List (FileTree × Call) :=
  rounds.flatMap Round.made

/-- The files after rounds, which at first are `t`. -/
def lastTree (t : FileTree) : List Round → FileTree
  | [] => t
  | round :: rest => lastTree round.tree rest

/-- Before the files change again, every followed file that reads differently now is reported as changed
or deleted. -/
def Reported (r : Registry) (t : FileTree) : List Round → Prop
  | [] => True
  | round :: rest =>
    (∀ f ∈ r.files, round.tree.readText (.ofText f) = t.readText (.ofText f) ∨
      .change f ∈ round.calls ∨ .delete f ∈ round.calls) ∧
    Reported (r.run round.made) round.tree rest

instance decidableReported (r : Registry) (t : FileTree) :
    (rounds : List Round) → Decidable (Reported r t rounds)
  | [] => isTrue trivial
  | round :: rest =>
    have := decidableReported (r.run round.made) round.tree rest
    inferInstanceAs (Decidable (_ ∧ _))

def loadThen (t : FileTree) (directories : List Path) (rounds : List Round) :
    List (FileTree × Call) :=
  (t, .load directories) :: callsOf rounds

/-- The name that a file declares went to another file that was read later, and which has itself been read
or deleted since. -/
def Lost (h : List Event) (name file : Text) : Prop :=
  ∃ before other m after, h = before ++ .scan other (some m) :: after ∧ other ≠ file ∧
    Text.lower m.name = name ∧
    (∀ e ∈ after, e ≠ .clear ∧ ¬ e.Declares name ∧ ¬ e.Concerns file) ∧
    ∃ e ∈ after, e.Concerns other

/-- What was read last of the file is what it holds now. -/
def Fresh (lookback : Lookback) (t : FileTree) (h : List Event) (file : Text) : Prop :=
  ∀ source, t.readText (.ofText file) = .ok source →
    Since (· = .scan file (ModuleInfo.scan? lookback file source))
      (fun e => e ≠ .clear ∧ ¬ e.Concerns file) h

variable {lookback : Lookback} {t : FileTree} {r : Registry} {h : List Event} {file : Text}

theorem fresh_reading (lookback : Lookback) (t : FileTree) (h : List Event) (file : Text) :
    Fresh lookback t (h ++ reading lookback t file) file := by
  intro source hs
  rw [reading, hs]
  exact since_concat.mpr (Or.inl rfl)

theorem Fresh.concat (hf : Fresh lookback t h file) {e : Event} (hc : e ≠ .clear)
    (he : ¬ e.Concerns file) : Fresh lookback t (h ++ [e]) file :=
  fun source hs => since_concat.mpr (Or.inr ⟨hf source hs, hc, he⟩)

theorem Fresh.reading (hf : Fresh lookback t h file) (other : Text) :
    Fresh lookback t (h ++ Registry.reading lookback t other) file := by
  by_cases he : other = file
  · rw [he]
    exact fresh_reading lookback t h file
  · unfold Registry.reading
    split
    case h_1 => simpa using hf
    case h_2 => exact hf.concat (by simp) he

theorem fresh_readings {files : List Text} (hf : Fresh lookback t h file ∨ file ∈ files) :
    Fresh lookback t (h ++ files.flatMap (Registry.reading lookback t)) file := by
  induction files generalizing h with
  | nil => simpa using hf
  | cons f rest ih =>
    rw [List.flatMap_cons, ← List.append_assoc]
    apply ih
    rcases hf with hf | hf
    · exact Or.inl (hf.reading f)
    · rcases List.mem_cons.mp hf with rfl | hf
      · exact Or.inl (fresh_reading lookback t h file)
      · exact Or.inr hf

theorem forget_files (r : Registry) (file : Text) : (r.forget file).files = r.files := by
  unfold forget
  cases r.owners.get? file <;> rfl

theorem mem_delete_files {other : Text} :
    other ∈ (r.delete file).files ↔ other ∈ r.files ∧ other ≠ file := by
  rw [delete, forget_files]
  simp

theorem update_files (t : FileTree) (r : Registry) (file : Text) :
    (r.update t file).registry.files = r.files := by
  unfold update
  cases t.readText (.ofText file) with
  | error e => cases e <;> rfl
  | ok source =>
    simp only [rescan]
    cases ModuleInfo.scan? r.settings.lookback file source <;> exact forget_files r file

theorem mem_follow_files {other : Text} :
    other ∈ (r.follow file).files ↔ other ∈ r.files ∨ other = file := by
  unfold follow
  split
  case isTrue hm =>
    have hmem : file ∈ r.files := List.contains_iff_mem.mp hm
    exact ⟨Or.inl, fun ho => ho.elim id fun he => he ▸ hmem⟩
  case isFalse => simp

theorem mem_foldl_follow_files {files : List Text} :
    file ∈ (files.foldl follow r).files ↔ file ∈ r.files ∨ file ∈ files := by
  induction files generalizing r with
  | nil => simp
  | cons f rest ih =>
    rw [List.foldl_cons, ih, mem_follow_files, List.mem_cons, or_assoc]

theorem scanAll_files {files : List Text}
    (hread : ∀ f ∈ files, t.readText (.ofText f) ≠ .error .nullCharacter) (r : Registry) :
    (r.scanAll t files).registry.files = r.files := by
  induction files generalizing r with
  | nil => rfl
  | cons f rest ih =>
    obtain ⟨p, hp⟩ := scanAll_cons (hread f List.mem_cons_self) r rest
    rw [hp, ih fun g hg => hread g (List.mem_cons_of_mem f hg)]
    exact update_files t r f

/-- A call leaves every followed file fresh that was so before or is reported by it. -/
theorem fresh_call {c : Call}
    (hf : (file ∈ r.files → Fresh r.settings.lookback t h file) ∨ c = .change file ∨
      c = .delete file)
    (hmem : file ∈ (r.call t c).files) :
    Fresh r.settings.lookback t (h ++ c.events r.settings t) file := by
  cases c with
  | clear => cases hmem
  | update other =>
    rw [call, update_files] at hmem
    rcases hf with hf | hf | hf
    · exact (hf hmem).reading other
    · cases hf
    · cases hf
  | delete other =>
    obtain ⟨hmem, hne⟩ := mem_delete_files.mp hmem
    rcases hf with hf | hf | hf
    · exact (hf hmem).concat (by simp) (Ne.symm hne)
    · cases hf
    · exact absurd (Call.delete.inj hf).symm hne
  | change other =>
    rcases change_cases t r other with ⟨hcall, hev, hnone⟩ | ⟨hcall, hev⟩ | ⟨hcall, hev⟩
    · rw [hcall] at hmem
      rw [hev, List.append_nil]
      rcases hf with hf | hf | hf
      · exact hf hmem
      · obtain rfl := Call.change.inj hf
        exact fun source hs => absurd hs (hnone source)
      · cases hf
    · rw [hcall] at hmem
      rw [hev]
      obtain ⟨hmem, hne⟩ := mem_delete_files.mp hmem
      rcases hf with hf | hf | hf
      · exact (hf hmem).concat (by simp) (Ne.symm hne)
      · exact absurd (Call.change.inj hf).symm hne
      · cases hf
    · rw [hcall, update_files, mem_follow_files] at hmem
      rw [hev]
      rcases hf with hf | hf | hf
      · rcases hmem with hmem | rfl
        · exact (hf hmem).reading other
        · exact fresh_reading _ t h file
      · obtain rfl := Call.change.inj hf
        exact fresh_reading _ t h other
      · cases hf
  | load directories =>
    rcases hf with hf | hf | hf
    · rcases load_cases t r directories with ⟨hcall, hev⟩ | ⟨files, p, hread, hcall, hev⟩
      · rw [hcall] at hmem
        rw [hev, List.append_nil]
        exact hf hmem
      · rw [hcall, scanAll_files hread, mem_foldl_follow_files] at hmem
        rw [hev]
        exact fresh_readings (hmem.imp hf id)
    · cases hf
    · cases hf

/-- Calls between two changes of the files leave every followed file fresh that was so before or is
reported by one of them. -/
theorem fresh_run {calls : List Call}
    (hf : (file ∈ r.files → Fresh r.settings.lookback t h file) ∨ .change file ∈ calls ∨
      .delete file ∈ calls)
    (hmem : file ∈ (r.run (Round.made ⟨t, calls⟩)).files) :
    Fresh r.settings.lookback t (h ++ history r.settings (Round.made ⟨t, calls⟩)) file := by
  induction calls generalizing r h with
  | nil =>
    rcases hf with hf | hf | hf
    · simpa [Round.made, history] using hf hmem
    · cases hf
    · cases hf
  | cons c calls ih =>
    have hnext : (file ∈ (r.call t c).files →
        Fresh (r.call t c).settings.lookback t (h ++ c.events r.settings t) file) ∨
        .change file ∈ calls ∨ .delete file ∈ calls := by
      rw [call_settings]
      rcases hf with hf | hf | hf
      · exact Or.inl (fresh_call (Or.inl hf))
      · rcases List.mem_cons.mp hf with hc | hf
        · exact Or.inl (fresh_call (Or.inr (Or.inl hc.symm)))
        · exact Or.inr (Or.inl hf)
      · rcases List.mem_cons.mp hf with hc | hf
        · exact Or.inl (fresh_call (Or.inr (Or.inr hc.symm)))
        · exact Or.inr (Or.inr hf)
    have hrest := ih hnext hmem
    rw [call_settings] at hrest
    simpa [Round.made, history] using hrest

/-- If all changes are reported, the followed files are fresh in the end. -/
theorem fresh_rounds {rounds : List Round} (hr : Reported r t rounds)
    (hf : ∀ f ∈ r.files, Fresh r.settings.lookback t h f)
    (hmem : file ∈ (r.run (callsOf rounds)).files) :
    Fresh r.settings.lookback (lastTree t rounds)
      (h ++ history r.settings (callsOf rounds)) file := by
  induction rounds generalizing r t h with
  | nil => simpa [callsOf, history, lastTree] using hf file hmem
  | cons round rounds ih =>
    obtain ⟨hnow, hlater⟩ := hr
    have hround : ∀ f ∈ (r.run round.made).files, Fresh (r.run round.made).settings.lookback
        round.tree (h ++ history r.settings round.made) f := by
      intro f hmem'
      rw [run_settings]
      refine fresh_run ?_ hmem'
      by_cases hold : f ∈ r.files
      · rcases hnow f hold with hsame | hreport
        · refine Or.inl fun _ source hs => hf f hold source ?_
          rw [← hsame, hs]
        · exact Or.inr hreport
      · exact Or.inl fun hin => absurd hin hold
    have hrun : r.run (callsOf (round :: rounds)) = (r.run round.made).run (callsOf rounds) := by
      simp [callsOf, run, List.foldl_append]
    rw [hrun] at hmem
    have hrest := ih hlater hround hmem
    rw [run_settings] at hrest
    simpa [callsOf, history, lastTree] using hrest

theorem events_genuine {settings : Settings} {c : Call} {e : Event} (he : e ∈ c.events settings t) :
    e.Genuine := by
  cases c with
  | update file => exact reading_genuine he
  | delete file =>
    obtain rfl := List.mem_singleton.mp he
    exact trivial
  | clear =>
    obtain rfl := List.mem_singleton.mp he
    exact trivial
  | change file =>
    simp only [Call.events] at he
    split at he
    case h_1 => cases he
    case h_2 =>
      obtain rfl := List.mem_singleton.mp he
      exact trivial
    case h_3 => exact reading_genuine he
  | load directories =>
    simp only [Call.events] at he
    split at he
    case h_1 => cases he
    case h_2 =>
      obtain ⟨f, -, hf⟩ := List.mem_flatMap.mp he
      exact reading_genuine hf

theorem history_genuine {settings : Settings} {calls : List (FileTree × Call)} {e : Event}
    (he : e ∈ history settings calls) : e.Genuine := by
  obtain ⟨c, -, hc⟩ := List.mem_flatMap.mp he
  exact events_genuine hc

theorem exists_scan_of_declares {e : Event} {name : Text} (he : e.Declares name) :
    ∃ other m, e = .scan other (some m) ∧ Text.lower m.name = name := by
  match e with
  | .scan other (some m) => exact ⟨other, m, rfl, he⟩

/-- The name of a file that is read as declaring it has a module unless it was lost. -/
theorem exists_holds_iff_not_lost {name : Text} {m : ModuleInfo} (hg : ∀ e ∈ h, e.Genuine)
    (hs : Since (· = .scan file (some m)) (fun e => e ≠ .clear ∧ ¬ e.Concerns file) h)
    (hm : Text.lower m.name = name) : (∃ m', Holds h name m') ↔ ¬ Lost h name file := by
  constructor
  · rintro ⟨m', hname, before, e, after, rfl, rfl, hafter⟩
    rintro ⟨before', other, n, after', hsplit, -, hn, hafter', x, hx, hc⟩
    obtain ⟨he, rfl⟩ := eq_of_last (D := Event.Declares name) hsplit hname hn
      (fun y hy => (hafter y hy).2.1) (fun y hy => (hafter' y hy).2.1)
    obtain ⟨rfl, -⟩ := Event.scan.inj he
    exact (hafter x hx).2.2 hc
  · intro hlost
    -- the last file that was read as declaring the name keeps it, if it was not read or deleted again
    obtain ⟨before, e, after, rfl, he, hafter⟩ :=
      hs.last (D := Event.Declares name) fun e he => by rw [he]; exact hm
    obtain ⟨other, n, rfl, hn⟩ := exists_scan_of_declares he
    obtain rfl : n.path = other := hg (.scan other (some n)) (by simp)
    refine ⟨n, hn, before, _, after, rfl, rfl, fun x hx => ?_⟩
    refine ⟨(hafter x hx).1.1, (hafter x hx).2, fun hc => ?_⟩
    refine hlost ⟨before, n.path, n, after, rfl, ?_, hn, fun y hy => ?_, x, hx, hc⟩
    · intro hfile
      rw [hfile] at hc
      exact (hafter x hx).1.2 hc
    · exact ⟨(hafter y hy).1.1, (hafter y hy).2, (hafter y hy).1.2⟩

/-- In every run that begins with a load and reports each change of a followed file before the files
change again, the registry has the module name that a followed file declares now, unless the name went to
another file that was read later and then gave it up. -/
theorem contains_iff_not_lost (settings : Settings) (t : FileTree) (directories : List Path)
    (rounds : List Round)
    (hr : Reported ((empty settings).call t (.load directories)) t rounds) :
    ∀ file ∈ ((empty settings).run (loadThen t directories rounds)).files,
      ∀ source m, (lastTree t rounds).readText (.ofText file) = .ok source →
        ModuleInfo.scan? settings.lookback file source = some m →
        (((empty settings).run (loadThen t directories rounds)).contains m.name = true ↔
          ¬ Lost (history settings (loadThen t directories rounds)) (Text.lower m.name) file) := by
  intro file hmem source m hread hm
  let loaded := Call.events settings t (.load directories)
  have hstart : ∀ f ∈ ((empty settings).call t (.load directories)).files,
      Fresh ((empty settings).call t (.load directories)).settings.lookback t loaded f := by
    intro f hf
    rw [call_settings]
    exact fresh_call (r := empty settings) (h := []) (Or.inl fun hnone => by cases hnone) hf
  have hfresh : Fresh settings.lookback (lastTree t rounds)
      (history settings (loadThen t directories rounds)) file := by
    have hrounds := fresh_rounds hr hstart hmem
    rw [call_settings] at hrounds
    exact hrounds
  have hsince := hfresh source hread
  rw [hm] at hsince
  rw [← exists_holds_iff_not_lost (fun e => history_genuine) hsince rfl]
  have hrecord := (recorded_empty settings).run (loadThen t directories rounds)
  exact Option.isSome_iff_exists.trans (exists_congr fun m' => hrecord.modules _ m')

/-- A directory with one module file. -/
def alone : FileTree :=
  (FileTree.empty []).write (.ofText "src/aM.lua".toList) "module('X')".toUTF8.toList

/-- A second file declares the same name in lower case. -/
def together : FileTree :=
  alone.write (.ofText "src/bM.lua".toList) "module('x')".toUTF8.toList

/-- The second file comes and goes. -/
def visit : List Round :=
  [⟨together, [.change "src/bM.lua".toList]⟩, ⟨alone, [.delete "src/bM.lua".toList]⟩]

/-- As long as the second file has the name, it is not lost to the first. -/
theorem not_lost_while_taken :
    Reported ((empty .default).call alone (.load [.ofText "src".toList])) alone (visit.take 1) ∧
      "src/aM.lua".toList ∈
        ((empty .default).run (loadThen alone [.ofText "src".toList] (visit.take 1))).files ∧
      ((empty .default).run (loadThen alone [.ofText "src".toList] (visit.take 1))).contains
        "X".toList = true ∧
      ¬ Lost (history .default (loadThen alone [.ofText "src".toList] (visit.take 1))) "x".toList
        "src/aM.lua".toList := by
  have hr : Reported ((empty .default).call alone (.load [.ofText "src".toList])) alone
      (visit.take 1) := by decide +kernel
  have hf : "src/aM.lua".toList ∈
      ((empty .default).run (loadThen alone [.ofText "src".toList] (visit.take 1))).files := by
    decide +kernel
  have hc : ((empty .default).run (loadThen alone [.ofText "src".toList] (visit.take 1))).contains
      "X".toList = true := by decide +kernel
  have hiff := contains_iff_not_lost .default alone [.ofText "src".toList] (visit.take 1) hr
    "src/aM.lua".toList hf "module('X')".toList ⟨"X".toList, "src/aM.lua".toList, []⟩
    (by decide +kernel) (by decide +kernel)
  exact ⟨hr, hf, hc, hiff.mp hc⟩

/-- When the second file is gone and all is reported, the first still declares the name, and the registry
does not have it. -/
theorem declared_name_missing :
    Reported ((empty .default).call alone (.load [.ofText "src".toList])) alone visit ∧
      "src/aM.lua".toList ∈
        ((empty .default).run (loadThen alone [.ofText "src".toList] visit)).files ∧
      (lastTree alone visit).readText (.ofText "src/aM.lua".toList) = .ok "module('X')".toList ∧
      ModuleInfo.scan? Settings.default.lookback "src/aM.lua".toList "module('X')".toList =
        some ⟨"X".toList, "src/aM.lua".toList, []⟩ ∧
      ((empty .default).run (loadThen alone [.ofText "src".toList] visit)).contains "X".toList =
        false := by
  decide +kernel

end LuaIndex.Registry
