import LuaIndex.Proofs.Discovery.FirstMet
import LuaIndex.Proofs.Registry.Failures
import Mathlib.Data.List.Nodup

namespace LuaIndex

namespace Path

theorem Spelled.child {p : Path} (h : p.Spelled) {names : List Text}
    (hnames : ∀ n ∈ names, FileTree.NodeName n) : (p.child names).Spelled := by
  refine ⟨h.1, fun n hn => ?_⟩
  rcases List.mem_append.mp hn with hn | hn
  · exact h.2 n hn
  · obtain ⟨hne, hdot, -, hslash, -, -⟩ := hnames n hn
    exact ⟨hne, hdot, hslash⟩

theorem text_injective {p q : Path} (hp : p.Spelled) (hq : q.Spelled) (h : p.text = q.text) :
    p = q := by
  rw [← ofText_text hp, ← ofText_text hq, h]

end Path

namespace Discovery

variable {t : FileTree} {suffixes : List Text}

/-- What is listed below a spelled directory has a spelled path, which leads to a file. -/
theorem spelled_and_located_of_mem_find (ht : t.WellFormed) {directory : Path}
    (hdirectory : directory.Spelled) {ps : List Path}
    (h : (find t suffixes directory).2 = .ok ps) {p : Path} (hp : p ∈ ps) :
    p.Spelled ∧ ∃ place bytes, t.locate p = .ok (place, .file bytes) := by
  have hfile : t.isFile p = .ok true := isFile_of_mem_find (Prod.ext rfl h) hp
  obtain ⟨place, node, hl, hnode⟩ := FileTree.exists_locate_of_test hfile
  have hbytes : ∃ bytes, node = .file bytes := by
    cases node with
    | directory => cases hnode
    | file bytes => exact ⟨bytes, rfl⟩
  obtain ⟨bytes, rfl⟩ := hbytes
  refine ⟨?_, place, bytes, hl⟩
  rcases find_cases ht suffixes directory with
    ⟨-, q, hfail⟩ | ⟨-, hempty, -⟩ | ⟨above, qs, hover, hd, hk, hlist⟩
  · rw [h] at hfail
    cases hfail
  · rw [h] at hempty
    obtain rfl := Except.ok.inj hempty
    cases hp
  · rw [h] at hlist
    obtain rfl := Except.ok.inj hlist
    have hbelow := (mem_keepFiles_iff_isModuleBelow ht hover hd hk).mp (List.mem_mergeSort.mp hp)
    obtain ⟨above', names, bytes', -, -, rfl, hnode', -, -⟩ := hbelow
    exact hdirectory.child fun n hn => ht.nodeName hnode' n (List.mem_append_right above' hn)

/-- What can be looked up is remembered by the path that it resolves to. -/
theorem seenAs_eq_iff_resolve (ht : t.WellFormed) {p q : Path} {place place' : List Text}
    {node node' : Node} (hp : t.locate p = .ok (place, node)) (hq : t.locate q = .ok (place', node')) :
    seenAs t p = seenAs t q ↔ t.resolve p = t.resolve q := by
  rw [seenAs_eq_iff, ht.placeOf_eq hp, ht.placeOf_eq hq, ht.resolve_eq hp, ht.resolve_eq hq]
  simp

end Discovery

namespace Registry

/-- Scans a file and counts it. -/
def scanNext (t : FileTree) (r : Registry) (file : Text) : Registry :=
  let scanned := (r.update t file).registry
  { scanned with progress := ⟨scanned.progress.processed + 1, scanned.progress.total⟩ }

/-- The file at a path can be read, and a scan finds this module in it. -/
def DeclaresModule (t : FileTree) (lookback : Lookback) (p : Path) (m : ModuleInfo) : Prop :=
  ∃ source, t.readText p = .ok source ∧ ModuleInfo.scan? lookback p.text source = some m

/-- The module is that of the last of the paths whose files declare one of this lower-case name. -/
def LastDeclared (t : FileTree) (lookback : Lookback) (ps : List Path) (name : Text)
    (m : ModuleInfo) : Prop :=
  ∃ before p after, ps = before ++ p :: after ∧ DeclaresModule t lookback p m ∧
    Text.lower m.name = name ∧
    ∀ q ∈ after, ∀ m', DeclaresModule t lookback q m' → Text.lower m'.name ≠ name

/-- A new registry that follows the files at these paths, about to scan them. -/
def starting (settings : Settings) (ps : List Path) : Registry :=
  { empty settings with files := ps.map Path.text, progress := ⟨0, ps.length⟩ }

/-- A load of these directories has visited these paths, one after the other. -/
structure Visited (t : FileTree) (settings : Settings) (directories ps : List Path) : Prop where
  scanned : ((empty settings).loadAll t directories).registry =
    (ps.map Path.text).foldl (scanNext t) (starting settings ps)
  counted : ((empty settings).loadAll t directories).result =
    .ok ((List.range ps.length).map fun k : Nat => ⟨k + 1, ps.length⟩)
  followed : ((empty settings).loadAll t directories).registry.files = ps.map Path.text
  distinct : (ps.map Path.text).Nodup
  modules : ∀ name m,
    ((empty settings).loadAll t directories).registry.modules.get? name = some m ↔
      LastDeclared t settings.lookback ps name m

variable {t : FileTree} {lookback : Lookback}

theorem scanNext_progress (t : FileTree) (r : Registry) (file : Text) :
    (scanNext t r file).progress = ⟨r.progress.processed + 1, r.progress.total⟩ := by
  simp only [scanNext, update_progress]

theorem scanAll_cons_eq {file : Text}
    (hread : t.readText (.ofText file) ≠ .error .nullCharacter) (r : Registry) (rest : List Text) :
    (r.scanAll t (file :: rest)).registry = ((scanNext t r file).scanAll t rest).registry ∧
      (r.scanAll t (file :: rest)).result =
        ((scanNext t r file).scanAll t rest).result.map ((scanNext t r file).progress :: ·) := by
  obtain ⟨found, hf⟩ := exists_update_result hread r
  simp only [scanAll, hf]
  exact ⟨rfl, rfl⟩

/-- Scanning files visits them in turn and counts up to their number. -/
theorem scanAll_eq_foldl {files : List Text}
    (hread : ∀ f ∈ files, t.readText (.ofText f) ≠ .error .nullCharacter) (r : Registry) :
    (r.scanAll t files).registry = files.foldl (scanNext t) r ∧
      (r.scanAll t files).result = .ok ((List.range files.length).map fun k : Nat =>
        ⟨r.progress.processed + (k + 1), r.progress.total⟩) := by
  induction files generalizing r with
  | nil => exact ⟨rfl, rfl⟩
  | cons file rest ih =>
    rw [List.forall_mem_cons] at hread
    obtain ⟨hregistry, hresult⟩ := scanAll_cons_eq hread.1 r rest
    obtain ⟨hfold, hcounts⟩ := ih hread.2 (scanNext t r file)
    refine ⟨hregistry.trans hfold, ?_⟩
    rw [hresult, hcounts, scanNext_progress, List.length_cons, List.range_succ_eq_map, List.map_cons,
      List.map_map]
    refine congrArg Except.ok (congrArg₂ List.cons rfl (List.map_congr_left fun k _ => ?_))
    simp only [Function.comp_apply, Nat.succ_eq_add_one, Int.natCast_add, Progress.mk.injEq, and_true]
    omega

theorem foldl_follow_files {files : List Text} {r : Registry} (h : (r.files ++ files).Nodup) :
    (files.foldl follow r).files = r.files ++ files := by
  induction files generalizing r with
  | nil => exact (List.append_nil r.files).symm
  | cons file rest ih =>
    have hnew : file ∉ r.files := by
      intro hmem
      exact (List.nodup_append.mp h).2.2 file hmem file List.mem_cons_self rfl
    have hfollow : r.follow file = { r with files := r.files ++ [file] } := by
      rw [follow, if_neg (by simpa using hnew)]
    have hjoin : r.files ++ file :: rest = r.files ++ [file] ++ rest := by simp
    rw [hjoin] at h ⊢
    rw [List.foldl_cons, hfollow]
    exact ih h

theorem lastDeclared_concat {ps : List Path} {p : Path} {name : Text} {m : ModuleInfo} :
    LastDeclared t lookback (ps ++ [p]) name m ↔
      (DeclaresModule t lookback p m ∧ Text.lower m.name = name) ∨
        (LastDeclared t lookback ps name m ∧
          ∀ m', DeclaresModule t lookback p m' → Text.lower m'.name ≠ name) := by
  constructor
  · intro h
    obtain ⟨before, q, after, hsplit, hq, hname, hafter⟩ := h
    rcases List.eq_nil_or_concat after with rfl | ⟨rest, last, rfl⟩
    · obtain ⟨-, hlast⟩ := List.append_inj' hsplit rfl
      obtain rfl : p = q := (List.cons.inj hlast).1
      exact Or.inl ⟨hq, hname⟩
    · have hend : ps ++ [p] = (before ++ q :: rest) ++ [last] := by simpa using hsplit
      obtain ⟨rfl, hlast⟩ := List.append_inj' hend rfl
      obtain rfl : p = last := (List.cons.inj hlast).1
      exact Or.inr ⟨⟨before, q, rest, rfl, hq, hname, fun x hx => hafter x (by simp [hx])⟩,
        hafter p (by simp)⟩
  · intro h
    rcases h with ⟨hp, hname⟩ | ⟨⟨before, q, after, rfl, hq, hname, hafter⟩, hp⟩
    · exact ⟨ps, p, [], rfl, hp, hname, by simp⟩
    · refine ⟨before, q, after ++ [p], by simp, hq, hname, ?_⟩
      rw [List.forall_mem_append, List.forall_mem_singleton]
      exact ⟨hafter, hp⟩

theorem path_of_declaresModule {p : Path} {m : ModuleInfo} (h : DeclaresModule t lookback p m) :
    m.path = p.text := by
  obtain ⟨source, -, hscan⟩ := h
  obtain ⟨name, -, rfl⟩ := Option.map_eq_some_iff.mp hscan
  rfl

theorem not_declaresModule_of_unreadable {p : Path} {e : FileError} (h : t.readText p = .error e)
    (m : ModuleInfo) : ¬ DeclaresModule t lookback p m := by
  intro hm
  obtain ⟨source, hsource, -⟩ := hm
  rw [h] at hsource
  cases hsource

theorem declaresModule_iff {p : Path} {source : Text} (h : t.readText p = .ok source)
    {m : ModuleInfo} :
    DeclaresModule t lookback p m ↔ ModuleInfo.scan? lookback p.text source = some m := by
  simp [DeclaresModule, h]

theorem reading_of_unreadable {p : Path} (hp : p.Spelled) {e : FileError}
    (h : t.readText p = .error e) : reading lookback t p.text = [] := by
  rw [reading, Path.ofText_text hp, h]

theorem reading_of_readable {p : Path} (hp : p.Spelled) {source : Text}
    (h : t.readText p = .ok source) :
    reading lookback t p.text = [.scan p.text (ModuleInfo.scan? lookback p.text source)] := by
  rw [reading, Path.ofText_text hp, h]

/-- If files are read one after the other, each once, a name belongs to the last that declares it. -/
theorem holds_readings_iff {ps : List Path} (hspelled : ∀ p ∈ ps, p.Spelled)
    (hdistinct : (ps.map Path.text).Nodup) {name : Text} {m : ModuleInfo} :
    Holds ((ps.map Path.text).flatMap (reading lookback t)) name m ↔
      LastDeclared t lookback ps name m := by
  induction ps using List.reverseRecOn with
  | nil =>
    refine iff_of_false (fun h => not_since_nil h.2) fun h => ?_
    obtain ⟨before, p, after, hsplit, -⟩ := h
    cases before <;> cases hsplit
  | append_singleton ps p ih =>
    rw [List.forall_mem_append, List.forall_mem_singleton] at hspelled
    rw [List.map_append, List.map_singleton] at hdistinct
    have hbefore := ih hspelled.1 (List.nodup_append.mp hdistinct).1
    rw [lastDeclared_concat, ← hbefore, List.map_append, List.map_singleton, List.flatMap_append,
      List.flatMap_singleton]
    cases hread : t.readText p with
    | error e =>
      rw [reading_of_unreadable hspelled.2 hread, List.append_nil]
      simp [not_declaresModule_of_unreadable hread]
    | ok source =>
      -- a module that an earlier file gave has another path, so reading this file does not touch it
      have hother : Holds ((ps.map Path.text).flatMap (reading lookback t)) name m →
          ¬ p.text = m.path := by
        intro hholds he
        obtain ⟨before, q, after, rfl, hq, -⟩ := hbefore.mp hholds
        rw [path_of_declaresModule hq] at he
        have hmem : q.text ∈ (before ++ q :: after).map Path.text := List.mem_map_of_mem (by simp)
        exact (List.nodup_append.mp hdistinct).2.2 q.text hmem p.text List.mem_cons_self he.symm
      have hdeclares : ∀ {m'}, DeclaresModule t lookback p m' ↔
          ModuleInfo.scan? lookback p.text source = some m' := declaresModule_iff hread
      rw [reading_of_readable hspelled.2 hread, holds_concat]
      cases hfound : ModuleInfo.scan? lookback p.text source with
      | none =>
        simp only [hdeclares, hfound, Event.Declares, Event.Concerns]
        simpa using hother
      | some found =>
        have hfile : found.path = p.text := path_of_declaresModule (hdeclares.mpr hfound)
        simp only [hdeclares, hfound, Event.Declares, Event.Concerns, Event.scan.injEq,
          Option.some.injEq, forall_eq']
        constructor
        · intro h
          rcases h with ⟨⟨-, rfl⟩, hname⟩ | ⟨hholds, -, hnot, -⟩
          · exact Or.inl ⟨rfl, hname⟩
          · exact Or.inr ⟨hholds, hnot⟩
        · intro h
          rcases h with ⟨rfl, hname⟩ | ⟨hholds, hnot⟩
          · exact Or.inl ⟨⟨hfile.symm, rfl⟩, hname⟩
          · exact Or.inr ⟨hholds, by simp, hnot, hother hholds⟩

theorem loadAll_of_findAll {r : Registry} {directories ps : List Path}
    (h : (Discovery.findAll t r.settings.suffixes [] directories).2 = .ok ps) :
    let o := ((ps.map Path.text).foldl follow { r with progress := ⟨0, (ps.map Path.text).length⟩ }).scanAll
      t (ps.map Path.text)
    (r.loadAll t directories).registry = o.registry ∧ (r.loadAll t directories).result = o.result := by
  cases hf : Discovery.findAll t r.settings.suffixes [] directories with
  | mk notices found =>
    rw [hf] at h
    obtain rfl : found = .ok ps := h
    rw [loadAll, hf]
    exact ⟨rfl, rfl⟩

theorem foldl_follow_starting {settings : Settings} {ps : List Path}
    (h : (ps.map Path.text).Nodup) :
    (ps.map Path.text).foldl follow
        { empty settings with progress := ⟨0, (ps.map Path.text).length⟩ } =
      starting settings ps := by
  let fresh : Registry := { empty settings with progress := ⟨0, (ps.map Path.text).length⟩ }
  obtain ⟨fs, hfs⟩ := foldl_follow_eq (ps.map Path.text) fresh
  have hfiles : ((ps.map Path.text).foldl follow fresh).files = ps.map Path.text :=
    foldl_follow_files (r := fresh) h
  rw [hfs] at hfiles
  obtain rfl : fs = ps.map Path.text := hfiles
  have hlength : ((ps.map Path.text).length : Int) = ps.length := by rw [List.length_map]
  rw [hfs, starting, ← hlength]

/-- A load that does not fail has found what it looked for. -/
theorem exists_findAll_of_loadAll {r : Registry} {directories : List Path} {counts : List Progress}
    (h : (r.loadAll t directories).result = .ok counts) :
    ∃ ps, (Discovery.findAll t r.settings.suffixes [] directories).2 = .ok ps := by
  cases hf : (Discovery.findAll t r.settings.suffixes [] directories).2 with
  | ok ps => exact ⟨ps, rfl⟩
  | error cause =>
    have hfail := (load_failure?_iff t r directories cause).mpr hf
    rw [Outcome.failure?, h] at hfail
    cases hfail

/-- A load visits what its search finds. -/
theorem visited_of_findAll {settings : Settings} {directories ps : List Path}
    (h : (Discovery.findAll t settings.suffixes [] directories).2 = .ok ps)
    (hspelled : ∀ p ∈ ps, p.Spelled) (hnodup : ps.Nodup) :
    Visited t settings directories ps := by
  have hdistinct : (ps.map Path.text).Nodup :=
    List.Nodup.map_on (fun p hp q hq => Path.text_injective (hspelled p hp) (hspelled q hq)) hnodup
  have hread : ∀ f ∈ ps.map Path.text, t.readText (.ofText f) ≠ .error .nullCharacter :=
    forall_readText_ne (r := empty settings) (Prod.ext rfl h)
  obtain ⟨hregistry, hresult⟩ := loadAll_of_findAll (r := empty settings) h
  rw [foldl_follow_starting hdistinct] at hregistry hresult
  obtain ⟨hfold, hcounts⟩ := scanAll_eq_foldl hread (starting settings ps)
  refine ⟨hregistry.trans hfold, ?_, ?_, hdistinct, ?_⟩
  · rw [hresult, hcounts, List.length_map]
    simp [starting]
  · rw [hregistry, scanAll_files hread]
    rfl
  · intro name m
    have hrecord := (recorded_empty settings).call t (.load directories)
    have hevents : Call.events settings t (.load directories) =
        (ps.map Path.text).flatMap (reading settings.lookback t) := by
      simp only [Call.events, h]
    have hholds := hrecord.modules name m
    rw [List.nil_append, show (empty settings).settings = settings from rfl, hevents] at hholds
    exact hholds.trans (holds_readings_iff hspelled hdistinct)

/-- A load of a new registry that does not fail visits the paths that are the first to lead to their file,
in the order in which the searches below its roots list them. It scans the files under these paths, each
once, counts them from one to their number, follows just them, and leaves each name to the last file that
declares it. Another visit below one of the roots changes nothing. -/
theorem load_visits_each_file_once (t : FileTree) (ht : t.WellFormed) (settings : Settings)
    (roots : List Text) (counts : List Progress)
    (h : ((empty settings).loadAll t (roots.map Path.ofText)).result = .ok counts) :
    ∃ (lists : List (List Path)) (ps : List Path),
      roots.map (fun root => (Discovery.find t settings.suffixes (.ofText root)).2) =
          lists.map .ok ∧
        Discovery.FirstMet t.resolve lists.flatten ps ∧
        (∀ p ∈ ps, ∃ place bytes, t.locate p = .ok (place, .file bytes) ∧
          t.resolve p = .ok ⟨1, place⟩) ∧
        Visited t settings (roots.map Path.ofText) ps ∧
        ∀ root ∈ roots,
          ((empty settings).loadAll t ((roots ++ [root]).map Path.ofText)).registry =
              ((empty settings).loadAll t (roots.map Path.ofText)).registry ∧
            ((empty settings).loadAll t ((roots ++ [root]).map Path.ofText)).result = .ok counts := by
  obtain ⟨ps, hps⟩ := exists_findAll_of_loadAll h
  obtain ⟨lists, hlists, hpick⟩ := Discovery.findAll_eq_ok_iff.mp hps
  rw [List.map_map] at hlists
  have hlisted : ∀ p ∈ lists.flatten,
      p.Spelled ∧ ∃ place bytes, t.locate p = .ok (place, .file bytes) := by
    intro p hp
    obtain ⟨found, hfound, hp⟩ := List.mem_flatten.mp hp
    have hsearch : Except.ok found ∈
        roots.map (fun root => (Discovery.find t settings.suffixes (.ofText root)).2) := by
      rw [show roots.map (fun root => (Discovery.find t settings.suffixes (.ofText root)).2) =
        lists.map .ok from hlists]
      exact List.mem_map_of_mem hfound
    obtain ⟨root, -, hfind⟩ := List.mem_map.mp hsearch
    exact Discovery.spelled_and_located_of_mem_find ht (Path.spelled_ofText root) hfind hp
  have hsame : ∀ p ∈ lists.flatten, ∀ q ∈ lists.flatten,
      Discovery.seenAs t p = Discovery.seenAs t q ↔ t.resolve p = t.resolve q := by
    intro p hp q hq
    obtain ⟨-, place, bytes, hl⟩ := hlisted p hp
    obtain ⟨-, place', bytes', hl'⟩ := hlisted q hq
    exact Discovery.seenAs_eq_iff_resolve ht hl hl'
  have hfirst := (Discovery.firstMet_pick t lists.flatten).congr hsame
  rw [← hpick] at hfirst
  have hsub : ∀ p ∈ ps, p ∈ lists.flatten := fun p hp => hfirst.sublist.subset hp
  refine ⟨lists, ps, hlists, hfirst, ?_, ?_, ?_⟩
  · intro p hp
    obtain ⟨-, place, bytes, hl⟩ := hlisted p (hsub p hp)
    exact ⟨place, bytes, hl, ht.resolve_eq hl⟩
  · exact visited_of_findAll hps (fun p hp => (hlisted p (hsub p hp)).1)
      (List.Nodup.of_map t.resolve hfirst.once)
  · intro root hroot
    have hagain := Discovery.findAll_concat_of_mem hps (List.mem_map_of_mem hroot)
    obtain ⟨hregistry, hresult⟩ := loadAll_of_findAll (r := empty settings) hps
    obtain ⟨hregistry', hresult'⟩ := loadAll_of_findAll (r := empty settings) hagain
    rw [List.map_append, List.map_singleton, hregistry', hregistry, hresult', ← hresult]
    exact ⟨rfl, h⟩

/-- Two files that declare the same name in different case, and one that is no text. -/
def shared : FileTree :=
  ⟨[], [(["lib".toList], .directory),
    (["lib".toList, "aM.lua".toList], .file (Utf8.encode "module('X')".toList)),
    (["src".toList], .directory),
    (["src".toList, "bM.lua".toList], .file (Utf8.encode "module('x')".toList)),
    (["bin".toList], .directory), (["bin".toList, "cM.lua".toList], .file [255])]⟩

/-- Directories of which two are the same and one is not there. -/
def sharedRoots : List Text :=
  ["lib".toList, "gone".toList, "src".toList, "src/../lib".toList, "bin".toList]

/-- The file below the directory that is given twice is scanned once, and before the file that takes its
name. -/
theorem shared_roots_visited :
    shared.WellFormed ∧
      ((empty .default).loadAll shared (sharedRoots.map Path.ofText)).result =
        .ok [⟨1, 3⟩, ⟨2, 3⟩, ⟨3, 3⟩] ∧
      ∃ ps, Visited shared .default (sharedRoots.map Path.ofText) ps ∧
        ps.map Path.text =
          ["lib/aM.lua".toList, "src/bM.lua".toList, "bin/cM.lua".toList] ∧
        LastDeclared shared (.lines 10) ps "x".toList
          ⟨"x".toList, "src/bM.lua".toList, []⟩ ∧
        ((empty .default).loadAll shared
          ((sharedRoots ++ ["src/../lib".toList]).map Path.ofText)).result =
            .ok [⟨1, 3⟩, ⟨2, 3⟩, ⟨3, 3⟩] := by
  have hwell : shared.WellFormed := ⟨by decide +kernel, by decide +kernel, by decide +kernel⟩
  have hresult : ((empty .default).loadAll shared (sharedRoots.map Path.ofText)).result =
      .ok [⟨1, 3⟩, ⟨2, 3⟩, ⟨3, 3⟩] := by decide +kernel
  have hfiles : ((empty .default).loadAll shared (sharedRoots.map Path.ofText)).registry.files =
      ["lib/aM.lua".toList, "src/bM.lua".toList, "bin/cM.lua".toList] := by decide +kernel
  have hname : ((empty .default).loadAll shared
      (sharedRoots.map Path.ofText)).registry.modules.get? "x".toList =
        some ⟨"x".toList, "src/bM.lua".toList, []⟩ := by decide +kernel
  obtain ⟨lists, ps, -, -, -, hvisited, hagain⟩ :=
    load_visits_each_file_once shared hwell .default sharedRoots _ hresult
  refine ⟨hwell, hresult, ps, hvisited, ?_, ?_, ?_⟩
  · exact hvisited.followed.symm.trans hfiles
  · exact (hvisited.modules _ _).mp hname
  · exact (hagain "src/../lib".toList (by decide)).2

end Registry

end LuaIndex
