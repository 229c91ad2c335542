import LuaIndex.Proofs.FileTree.WellFormed
import LuaIndex.Proofs.Text.Order

namespace LuaIndex

namespace FileTree

variable {t : FileTree}

theorem isDirectory_of_locate {p : Path} {place : List Text}
    (h : t.locate p = .ok (place, .directory)) : t.isDirectory p = .ok true := by
  rw [isDirectory, test, h]
  rfl

theorem exists_node?_of_mem {e : List Text × Node} (he : e ∈ t.nodes) (hne : e.1 ≠ []) :
    ∃ node, t.node? e.1 = some node := by
  have hfound : (t.nodes.find? fun e' => e'.1 = e.1).isSome := by
    rw [List.find?_isSome]
    exact ⟨e, he, by simp⟩
  obtain ⟨e', he'⟩ := Option.isSome_iff_exists.mp hfound
  exact ⟨e'.2, by rw [node?, if_neg hne, he', Option.map_some]⟩

end FileTree

namespace Discovery

/-- The path of the directory is too long, or that of something below it that a search looks at: a
directory, hidden or not, or what may be a module file. -/
def Overlong (t : FileTree) (directory : Path) : Prop :=
  t.TooLong directory ∨
    ∃ place names node, t.locate directory = .ok (place, .directory) ∧ names ≠ [] ∧
      t.node? (place ++ names) = some node ∧ (node = .directory ∨ isCandidate names = true) ∧
      FileTree.pathLimit ≤ Utf8.size (directory.child names).text

/-- The path is that of a module file at any depth below a directory, with nothing hidden on the way. -/
def IsModuleBelow (t : FileTree) (suffixes : List Text) (directory p : Path) : Prop :=
  ∃ place names bytes, t.locate directory = .ok (place, .directory) ∧ names ≠ [] ∧
    p = directory.child names ∧ t.node? (place ++ names) = some (.file bytes) ∧
    (∀ n ∈ names, isHidden n = false) ∧ isModuleFile suffixes p = true

variable {t : FileTree} {suffixes : List Text} {directory : Path} {place : List Text}

theorem mem_below_iff {names : List Text} :
    names ∈ below t place ↔ names ≠ [] ∧ ∃ node, t.node? (place ++ names) = some node := by
  constructor
  · intro h
    obtain ⟨hne, e, he, hplace⟩ := mem_of_mem_below h
    have hsome := FileTree.exists_node?_of_mem he (by simp [hplace, hne])
    rw [hplace] at hsome
    exact ⟨hne, hsome⟩
  · intro h
    obtain ⟨hne, node, hnode⟩ := h
    exact mem_below hne (FileTree.mem_nodes_of_node? (by simp [hne]) hnode)

theorem mem_visits_iff_node? {names : List Text} :
    names ∈ visits t place ↔ names ≠ [] ∧ ∃ node, t.node? (place ++ names) = some node ∧
      (node = .directory ∨ isCandidate names = true) := by
  rw [mem_visits_iff, mem_below_iff]
  constructor
  · intro h
    obtain ⟨⟨hne, node, hnode⟩, hkind⟩ := h
    refine ⟨hne, node, hnode, hkind.symm.imp (fun hd => ?_) id⟩
    rw [hnode] at hd
    exact Option.some.inj hd
  · intro h
    obtain ⟨hne, node, hnode, hkind⟩ := h
    refine ⟨⟨hne, node, hnode⟩, hkind.symm.imp id fun hd => ?_⟩
    rw [hnode, hd]

theorem nodup_eraseDups {α : Type} [BEq α] [LawfulBEq α] (l : List α) : l.eraseDups.Nodup := by
  induction hn : l.length using Nat.strongRecOn generalizing l with
  | ind n ih =>
    cases l with
    | nil => exact List.nodup_nil
    | cons a l =>
      have hlength : (l.filter fun b => !b == a).length < n := by
        have hle := List.length_filter_le (fun b => !b == a) l
        rw [← hn, List.length_cons]
        omega
      rw [List.eraseDups_cons, List.nodup_cons]
      refine ⟨?_, ih _ hlength _ rfl⟩
      rw [List.mem_eraseDups, List.mem_filter]
      simp

theorem nodup_visits (t : FileTree) (place : List Text) : (visits t place).Nodup := by
  rw [(perm_visits t place).nodup_iff]
  exact (nodup_eraseDups _).filter _

/-- Nothing is kept exactly if the kind of something cannot be told. -/
theorem keepFiles_cases (t : FileTree) (suffixes : List Text) (directory : Path)
    (visited : List (List Text)) :
    (∃ names ∈ visited, ∃ e, t.isFile (directory.child names) = .error e ∧
        keepFiles t suffixes directory visited = .error e) ∨
      (∀ names ∈ visited, ∃ b, t.isFile (directory.child names) = .ok b) ∧
        ∃ ps, keepFiles t suffixes directory visited = .ok ps := by
  induction visited with
  | nil => exact Or.inr ⟨by simp, [], rfl⟩
  | cons names rest ih =>
    cases hf : t.isFile (directory.child names) with
    | error e =>
      refine Or.inl ⟨names, List.mem_cons_self, e, hf, ?_⟩
      simp only [keepFiles, hf]
    | ok isFile =>
      rcases ih with ⟨other, hother, e, he, hk⟩ | ⟨hall, ps, hk⟩
      · refine Or.inl ⟨other, List.mem_cons_of_mem names hother, e, he, ?_⟩
        simp only [keepFiles, hf, hk]
      · refine Or.inr ⟨List.forall_mem_cons.mpr ⟨⟨isFile, hf⟩, hall⟩, ?_⟩
        simp only [keepFiles, hf, hk]
        exact ⟨_, rfl⟩

theorem keepFiles_sublist {visited : List (List Text)} {ps : List Path}
    (h : keepFiles t suffixes directory visited = .ok ps) :
    ps.Sublist (visited.map directory.child) := by
  induction visited generalizing ps with
  | nil =>
    obtain rfl := Except.ok.inj h
    exact List.Sublist.refl []
  | cons names rest ih =>
    simp only [keepFiles] at h
    cases hf : t.isFile (directory.child names) with
    | error e => simp [hf] at h
    | ok isFile =>
      cases hk : keepFiles t suffixes directory rest with
      | error e => simp [hf, hk] at h
      | ok qs =>
        simp only [hf, hk, Except.ok.injEq] at h
        rw [← h, List.map_cons]
        split
        case isTrue => exact (ih hk).cons_cons _
        case isFalse => exact (ih hk).cons _

theorem find_of_locate (hd : t.locate directory = .ok (place, .directory)) :
    (find t suffixes directory).2 = (keepFiles t suffixes directory (visits t place)).map
      fun ps => ps.mergeSort fun a b => Path.namesLe a.names b.names := by
  simp only [find, FileTree.isDirectory_of_locate hd, hd]

/-- A search fails, or it lists something, or there is nothing to search. -/
theorem find_cases (ht : t.WellFormed) (suffixes : List Text) (directory : Path) :
    (Overlong t directory ∧ ∃ p : Path, (find t suffixes directory).2 = .error (.nameTooLong p.text)) ∨
      (¬ Overlong t directory ∧ (find t suffixes directory).2 = .ok [] ∧
        ∀ place, t.locate directory ≠ .ok (place, .directory)) ∨
      ∃ place qs, ¬ Overlong t directory ∧ t.locate directory = .ok (place, .directory) ∧
        keepFiles t suffixes directory (visits t place) = .ok qs ∧
        (find t suffixes directory).2 =
          .ok (qs.mergeSort fun a b => Path.namesLe a.names b.names) := by
  cases hd : t.isDirectory directory with
  | error e =>
    obtain ⟨hlong, rfl⟩ := FileTree.test_eq_error_iff.mp hd
    exact Or.inl ⟨Or.inl hlong, directory, by simp only [find, hd]⟩
  | ok there =>
    have hshort : ¬ t.TooLong directory := FileTree.not_tooLong_of_test hd
    cases there with
    | false =>
      have hnone : ∀ place, t.locate directory ≠ .ok (place, .directory) := by
        intro place hl
        rw [FileTree.isDirectory_of_locate hl] at hd
        cases hd
      refine Or.inr (Or.inl ⟨?_, by simp only [find, hd], hnone⟩)
      intro hover
      obtain hlong | ⟨place, names, node, hl, -⟩ := hover
      · exact hshort hlong
      · exact hnone place hl
    | true =>
      obtain ⟨place, node, hl, hnode⟩ := FileTree.exists_locate_of_test hd
      cases node with
      | file bytes => cases hnode
      | directory =>
        have hfind : (find t suffixes directory).2 = _ := find_of_locate hl
        rcases keepFiles_cases t suffixes directory (visits t place) with
          ⟨names, hmem, e, hf, hk⟩ | ⟨hall, qs, hk⟩
        · obtain ⟨hne, node, hn, hkind⟩ := mem_visits_iff_node?.mp hmem
          rw [FileTree.isFile, ht.test_child hl hne hn] at hf
          split at hf
          case isFalse => cases hf
          case isTrue hlong =>
            obtain rfl := Except.error.inj hf
            refine Or.inl ⟨Or.inr ⟨place, names, node, hl, hne, hn, hkind, hlong⟩,
              directory.child names, ?_⟩
            rw [hfind, hk]
            rfl
        · refine Or.inr (Or.inr ⟨place, qs, ?_, hl, hk, by rw [hfind, hk]; rfl⟩)
          intro hover
          obtain hlong | ⟨place', names, node, hl', hne, hn, hkind, hlong⟩ := hover
          · exact hshort hlong
          · rw [hl] at hl'
            obtain ⟨rfl, -⟩ := Prod.mk.inj (Except.ok.inj hl')
            obtain ⟨b, hb⟩ := hall names (mem_visits_iff_node?.mpr ⟨hne, node, hn, hkind⟩)
            rw [FileTree.isFile, ht.test_child hl hne hn, if_pos hlong] at hb
            cases hb

/-- What is kept are the module files below the directory. -/
theorem mem_keepFiles_iff_isModuleBelow (ht : t.WellFormed) (hover : ¬ Overlong t directory)
    (hd : t.locate directory = .ok (place, .directory)) {qs : List Path}
    (hk : keepFiles t suffixes directory (visits t place) = .ok qs) {p : Path} :
    p ∈ qs ↔ IsModuleBelow t suffixes directory p := by
  have hvisible : ∀ names : List Text,
      names.any isHidden = false ↔ ∀ n ∈ names, isHidden n = false := by simp
  rw [mem_keepFiles_iff hk]
  constructor
  · intro h
    obtain ⟨names, hmem, rfl, hfile, hcandidate, hmodule⟩ := h
    obtain ⟨hne, node, hn, hkind⟩ := mem_visits_iff_node?.mp hmem
    rw [FileTree.isFile, ht.test_child hd hne hn] at hfile
    split at hfile
    case isTrue => cases hfile
    case isFalse =>
      cases node with
      | directory => cases hfile
      | file bytes =>
        simp only [isCandidate, Bool.and_eq_true, Bool.not_eq_true'] at hcandidate
        exact ⟨place, names, bytes, hd, hne, rfl, hn, (hvisible names).mp hcandidate.2, hmodule⟩
  · intro h
    obtain ⟨place', names, bytes, hd', hne, rfl, hn, hshown, hmodule⟩ := h
    rw [hd] at hd'
    obtain ⟨rfl, -⟩ := Prod.mk.inj (Except.ok.inj hd')
    have hcandidate := isCandidate_of_isModuleFile hne ((hvisible names).mpr hshown) hmodule
    have hshort : ¬ FileTree.pathLimit ≤ Utf8.size (directory.child names).text := by
      intro hlong
      exact hover (Or.inr ⟨place, names, _, hd, hne, hn, Or.inr hcandidate, hlong⟩)
    refine ⟨names, mem_visits_iff_node?.mpr ⟨hne, _, hn, Or.inr hcandidate⟩, rfl, ?_, hcandidate,
      hmodule⟩
    rw [FileTree.isFile, ht.test_child hd hne hn, if_neg hshort]
    rfl

/-- What is kept is listed once each, in the order of names. -/
theorem pairwise_sorted {qs : List Path}
    (hk : keepFiles t suffixes directory (visits t place) = .ok qs) :
    (qs.mergeSort fun a b => Path.namesLe a.names b.names).Pairwise
      fun a b => Path.NamesPrecede a.names b.names := by
  have hchild : ∀ names names' : List Text,
      names ≠ names' → (directory.child names).names ≠ (directory.child names').names :=
    fun names names' hne he => hne (List.append_cancel_left he)
  have hdistinct : qs.Pairwise fun a b => a.names ≠ b.names := by
    refine List.Pairwise.sublist (keepFiles_sublist hk) (List.pairwise_map.mpr ?_)
    exact (nodup_visits t place).imp fun {names names'} => hchild names names'
  have hperm := List.mergeSort_perm qs fun a b => Path.namesLe a.names b.names
  have hkept : (qs.mergeSort fun a b => Path.namesLe a.names b.names).Pairwise
      fun a b => a.names ≠ b.names :=
    (hperm.pairwise_iff fun {a b} h => Ne.symm h).mpr hdistinct
  have hsorted : (qs.mergeSort fun a b => Path.namesLe a.names b.names).Pairwise
      fun a b => Path.namesLe a.names b.names = true := by
    apply List.pairwise_mergeSort
    · exact fun a b c => Path.namesLe_trans
    · exact fun a b => Path.namesLe_total a.names b.names
  refine (hsorted.and hkept).imp fun {a b} hab => ?_
  exact (Path.namesLe_iff.mp hab.1).resolve_left hab.2

/-- A search fails exactly if a path that it has to follow is too long. Otherwise it lists the module files
at any depth below the directory to which nothing hidden leads, each once and in strictly increasing order
of names. -/
theorem search_lists_module_files (t : FileTree) (ht : t.WellFormed) (suffixes : List Text)
    (directory : Path) :
    (Overlong t directory →
      ∃ p : Path, (find t suffixes directory).2 = .error (.nameTooLong p.text)) ∧
    (¬ Overlong t directory →
      ∃ ps, (find t suffixes directory).2 = .ok ps ∧ ps.Nodup ∧
        ps.Pairwise (fun a b => Path.NamesPrecede a.names b.names) ∧
        ∀ p, p ∈ ps ↔ IsModuleBelow t suffixes directory p) := by
  rcases find_cases ht suffixes directory with
    ⟨hover, hfail⟩ | ⟨hover, hempty, hnone⟩ | ⟨place, qs, hover, hl, hk, hlist⟩
  · exact ⟨fun _ => hfail, fun hnot => absurd hover hnot⟩
  · refine ⟨fun h => absurd h hover, fun _ => ⟨[], hempty, List.nodup_nil, List.Pairwise.nil, ?_⟩⟩
    intro p
    refine iff_of_false List.not_mem_nil fun h => ?_
    obtain ⟨place, names, bytes, hl, -⟩ := h
    exact hnone place hl
  · refine ⟨fun h => absurd h hover, fun _ => ⟨_, hlist, ?_, pairwise_sorted hk, ?_⟩⟩
    · refine (pairwise_sorted hk).imp fun {a b} hab he => ?_
      rw [he] at hab
      exact List.lex_irrefl Text.Precedes.irrefl b.names hab
    · intro p
      rw [List.mem_mergeSort]
      exact mem_keepFiles_iff_isModuleBelow ht hover hl hk

/-- A directory in which a directory is named like a module file, two names part only after a directory
name, and a module file is hidden. -/
def scattered : FileTree :=
  ⟨[], [(["src".toList], .directory), (["src".toList, "b-M.lua".toList], .file []),
    (["src".toList, "b".toList], .directory), (["src".toList, "b".toList, "M.lua".toList], .file []),
    (["src".toList, "aM.lua".toList], .directory),
    (["src".toList, "aM.lua".toList, "cM.lua".toList], .file []),
    (["src".toList, ".git".toList], .directory),
    (["src".toList, ".git".toList, "dM.lua".toList], .file [])]⟩

theorem IsModuleBelow.names {names : List Text}
    (h : IsModuleBelow t suffixes directory (directory.child names))
    (hd : t.locate directory = .ok (place, .directory)) :
    (∃ bytes, t.node? (place ++ names) = some (.file bytes)) ∧ ∀ n ∈ names, isHidden n = false := by
  obtain ⟨place', names', bytes, hd', -, hchild, hnode, hvisible, -⟩ := h
  obtain rfl := directory.child_injective hchild
  rw [hd] at hd'
  obtain ⟨rfl, -⟩ := Prod.mk.inj (Except.ok.inj hd')
  exact ⟨⟨bytes, hnode⟩, hvisible⟩

/-- The module files are listed, also in the directory named like one, but neither this directory nor the
hidden file. -/
theorem scattered_modules_listed :
    scattered.WellFormed ∧
      ∃ ps, (find scattered ["M.lua".toList] (.ofText "src".toList)).2 = .ok ps ∧
        .ofText "src/b/M.lua".toList ∈ ps ∧ .ofText "src/aM.lua/cM.lua".toList ∈ ps ∧
        .ofText "src/aM.lua".toList ∉ ps ∧ .ofText "src/.git/dM.lua".toList ∉ ps := by
  have hwell : scattered.WellFormed :=
    ⟨by decide +kernel, by decide +kernel, by decide +kernel⟩
  have hl : scattered.locate (.ofText "src".toList) = .ok (["src".toList], .directory) := by
    decide +kernel
  have hk : keepFiles scattered ["M.lua".toList] (.ofText "src".toList)
      (visits scattered ["src".toList]) = .ok [.ofText "src/b-M.lua".toList,
        .ofText "src/b/M.lua".toList, .ofText "src/aM.lua/cM.lua".toList] := by
    decide +kernel
  obtain ⟨hfail, hlist⟩ :=
    search_lists_module_files scattered hwell ["M.lua".toList] (.ofText "src".toList)
  have hfind : (find scattered ["M.lua".toList] (.ofText "src".toList)).2 = _ := find_of_locate hl
  rw [hk] at hfind
  have hover : ¬ Overlong scattered (.ofText "src".toList) := by
    intro hover
    obtain ⟨p, hp⟩ := hfail hover
    rw [hfind] at hp
    cases hp
  obtain ⟨ps, hps, -, -, hmem⟩ := hlist hover
  refine ⟨hwell, ps, hps, ?_, ?_, ?_, ?_⟩
  · exact (hmem _).mpr ⟨["src".toList], ["b".toList, "M.lua".toList], [], hl, by decide,
      by decide +kernel, by decide +kernel, by decide, by decide +kernel⟩
  · exact (hmem _).mpr ⟨["src".toList], ["aM.lua".toList, "cM.lua".toList], [], hl, by decide,
      by decide +kernel, by decide +kernel, by decide, by decide +kernel⟩
  · intro hin
    have hbelow : IsModuleBelow scattered ["M.lua".toList] (.ofText "src".toList)
      ((Path.ofText "src".toList).child ["aM.lua".toList]) := (hmem _).mp hin
    obtain ⟨⟨bytes, hnode⟩, -⟩ := hbelow.names hl
    have hdirectory : scattered.node? (["src".toList] ++ ["aM.lua".toList]) = some .directory := by
      decide +kernel
    rw [hdirectory] at hnode
    cases hnode
  · intro hin
    have hbelow : IsModuleBelow scattered ["M.lua".toList] (.ofText "src".toList)
      ((Path.ofText "src".toList).child [".git".toList, "dM.lua".toList]) := (hmem _).mp hin
    have hvisible := (hbelow.names hl).2 ".git".toList List.mem_cons_self
    exact absurd hvisible (by decide)

/-- Seventeen names below each other, of which none is too long. -/
def longDirectory : Path :=
  ⟨0, List.replicate 17 (List.replicate 250 'a')⟩

theorem long_directory_not_searched :
    (FileTree.empty []).WellFormed ∧ Path.ofText longDirectory.text = longDirectory ∧
      (∀ n ∈ longDirectory.names, Utf8.size n ≤ FileTree.nameLimit) ∧
      (∀ p, ¬ IsModuleBelow (.empty []) ["M.lua".toList] longDirectory p) ∧
      (find (.empty []) ["M.lua".toList] longDirectory).2 ≠ .ok [] := by
  have hletter : ∀ n ∈ longDirectory.names, n = List.replicate 250 'a' :=
    fun n hn => List.eq_of_mem_replicate hn
  have hnull : Char.ofNat 0 ∉ longDirectory.text := by
    rw [Path.mem_text_iff (by decide) (by decide)]
    intro h
    obtain ⟨n, hn, hc⟩ := h
    rw [hletter n hn] at hc
    exact absurd (List.eq_of_mem_replicate hc) (by decide)
  have hsizes : ∀ k, Utf8.size (List.replicate k 'a') = k := by
    intro k
    induction k with
    | zero => rfl
    | succ k ih =>
      have hone : Utf8.size ['a'] = 1 := by decide
      rw [List.replicate_succ, ← List.singleton_append, Utf8.size_append, hone, ih, Nat.add_comm]
  have hsize : Utf8.size (List.replicate 250 'a') = 250 := hsizes 250
  have hbytes : ∀ n ∈ longDirectory.names, 250 ≤ Utf8.size n := by
    intro n hn
    rw [hletter n hn, hsize]
  have hlimit : FileTree.pathLimit ≤ Utf8.size longDirectory.text :=
    Nat.le_trans (by decide) (Path.mul_length_le_size hbytes)
  have hlong : (FileTree.empty []).TooLong longDirectory := ⟨hnull, Or.inl hlimit⟩
  refine ⟨⟨by decide, by decide, by decide⟩, Path.ofText_text ⟨by decide, ?_⟩, ?_, ?_, ?_⟩
  · intro n hn
    rw [hletter n hn]
    refine ⟨by decide, by decide, fun hslash => ?_⟩
    exact absurd (List.eq_of_mem_replicate hslash) (by decide)
  · intro n hn
    rw [hletter n hn, hsize]
    decide
  · intro p h
    obtain ⟨place, names, bytes, hd, -⟩ := h
    exact FileTree.not_tooLong_of_test (FileTree.isDirectory_of_locate hd) hlong
  · have hd : (FileTree.empty []).isDirectory longDirectory = .error (.nameTooLong longDirectory.text) :=
      FileTree.test_eq_error_iff.mpr ⟨hlong, rfl⟩
    simp [find, hd]

end Discovery

end LuaIndex
