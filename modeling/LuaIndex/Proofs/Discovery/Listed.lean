import LuaIndex.Proofs.Discovery.Found
import LuaIndex.Proofs.Path.Spelling

namespace LuaIndex

namespace FileTree

variable {t : FileTree}

/-- A walk along names goes on where the walk along the first of them ends. -/
theorem walk_append (t : FileTree) (place : List Text) (node : Node) (ms ns : List Text) :
    t.walk place node (ms ++ ns) =
      match t.walk place node ms with
      | .ok found => t.walk found.1 found.2 ns
      | .error e => .error e := by
  induction ms generalizing place node with
  | nil => rfl
  | cons m ms ih =>
    cases node with
    | file bytes => rfl
    | directory =>
      simp only [List.cons_append, walk]
      by_cases hup : m = ['.', '.']
      · simp only [if_pos hup]
        exact ih _ _
      · simp only [if_neg hup]
        by_cases hlong : nameLimit < Utf8.size m
        · simp only [if_pos hlong]
        · simp only [if_neg hlong]
          cases t.node? (place ++ [m]) with
          | none => rfl
          | some n => exact ih _ _

/-- Names without two dots lead to the place that they name. -/
theorem walk_down {place place' : List Text} {node node' : Node} {names : List Text}
    (hup : ['.', '.'] ∉ names) (h : t.walk place node names = .ok (place', node')) :
    place' = place ++ names ∧ (names ≠ [] → t.node? (place ++ names) = some node') := by
  induction names generalizing place node with
  | nil =>
    obtain ⟨rfl, rfl⟩ := Prod.mk.inj (Except.ok.inj h)
    simp
  | cons n names ih =>
    simp only [List.mem_cons, not_or] at hup
    cases node with
    | file bytes => cases h
    | directory =>
      simp only [walk, if_neg (Ne.symm hup.1)] at h
      split at h
      case isTrue => cases h
      case isFalse =>
        cases hn : t.node? (place ++ [n]) with
        | none => simp [hn] at h
        | some m =>
          simp only [hn] at h
          obtain ⟨hplace, hnode⟩ := ih hup.2 h
          have hjoin : place ++ [n] ++ names = place ++ n :: names := by simp
          rw [hjoin] at hplace hnode
          refine ⟨hplace, fun _ => ?_⟩
          cases names with
          | nil =>
            obtain ⟨-, rfl⟩ := Prod.mk.inj (Except.ok.inj h)
            exact hn
          | cons k names => exact hnode (by simp)

theorem walk_of_locate {p : Path} {found : List Text × Node} (h : t.locate p = .ok found) :
    t.walk (if p.slashes = 0 then t.cwd else []) .directory p.names = .ok found := by
  unfold locate at h
  split at h
  case isTrue => cases h
  case isFalse =>
    split at h
    case isTrue => cases h
    case isFalse =>
      split at h
      case h_1 hw => rw [hw, Except.ok.inj h]
      all_goals cases h

theorem locate_eq_ok_iff {p : Path} {found : List Text × Node} :
    t.locate p = .ok found ↔ Char.ofNat 0 ∉ p.text ∧ Utf8.size p.text < pathLimit ∧
      t.walk (if p.slashes = 0 then t.cwd else []) .directory p.names = .ok found := by
  constructor
  · intro h
    refine ⟨?_, ?_, walk_of_locate h⟩
    · intro hnull
      rw [locate, if_pos hnull] at h
      cases h
    · by_contra hlong
      unfold locate at h
      split at h
      case isTrue => cases h
      case isFalse =>
        rw [if_pos (Nat.le_of_not_lt hlong)] at h
        cases h
  · rintro ⟨hnull, hlong, hwalk⟩
    rw [locate, if_neg hnull, if_neg (Nat.not_le_of_lt hlong), hwalk]

theorem walk_child {p : Path} {place place' : List Text} {node node' : Node} {names : List Text}
    (hp : t.locate p = .ok (place, node)) (hc : t.locate (p.child names) = .ok (place', node')) :
    t.walk place node names = .ok (place', node') := by
  have hwalk := walk_of_locate hc
  rw [Path.child, walk_append, walk_of_locate hp] at hwalk
  exact hwalk

theorem exists_locate_of_test {kind : Node → Bool} {p : Path} (h : t.test kind p = .ok true) :
    ∃ place node, t.locate p = .ok (place, node) ∧ kind node = true := by
  unfold test at h
  split at h
  case h_1 place node hl => exact ⟨place, node, hl, Except.ok.inj h⟩
  all_goals cases h

theorem exists_of_isFile {p : Path} (h : t.isFile p = .ok true) : t.exists? p = .ok true := by
  obtain ⟨place, node, hl, -⟩ := exists_locate_of_test h
  rw [exists?, test, hl]

/-- No name in the tree has a slash, as on every disk. -/
def SlashFree (t : FileTree) : Prop :=
  ∀ e ∈ t.nodes, ∀ n ∈ e.1, '/' ∉ n

instance (t : FileTree) : Decidable t.SlashFree :=
  inferInstanceAs (Decidable (∀ e ∈ t.nodes, _))

theorem mem_nodes_of_node? {place : List Text} {node : Node} (hne : place ≠ [])
    (h : t.node? place = some node) : (place, node) ∈ t.nodes := by
  rw [node?, if_neg hne] at h
  obtain ⟨e, he, rfl⟩ := Option.map_eq_some_iff.mp h
  have hplace : e.1 = place := by simpa using List.find?_some he
  rw [← hplace]
  exact List.mem_of_find?_eq_some he

end FileTree

namespace Discovery

variable {t : FileTree} {suffixes : List Text} {directory : Path}

theorem mem_below {place names : List Text} {node : Node} (hne : names ≠ [])
    (h : (place ++ names, node) ∈ t.nodes) : names ∈ below t place := by
  rw [below, List.mem_eraseDups, List.mem_filterMap]
  refine ⟨_, h, ?_⟩
  simp [hne]

theorem perm_enqueue (next : Nat × List Text) (queue : List (Nat × List Text)) :
    (enqueue next queue).Perm (next :: queue) := by
  have hperm : (enqueue next queue).Perm
      (next :: (queue.takeWhile (fun other => decide (other.1 < next.1)) ++
        queue.dropWhile fun other => decide (other.1 < next.1))) := List.perm_middle
  rw [List.takeWhile_append_dropWhile] at hperm
  exact hperm

/-- The order in which a search looks at things leaves none of them out. -/
theorem perm_visits (t : FileTree) (place : List Text) :
    (visits t place).Perm ((below t place).filter (isVisited t place)) := by
  have hqueue : ∀ items : List (Nat × List Text), (items.foldr enqueue []).Perm items := by
    intro items
    induction items with
    | nil => exact List.Perm.refl []
    | cons next items ih => exact (perm_enqueue next _).trans (ih.cons next)
  have hmap := (hqueue (((below t place).filter (isVisited t place)).map fun names =>
    (rank t place names, names))).map Prod.snd
  have hsnd : (Prod.snd ∘ fun names => (rank t place names, names)) = id := rfl
  rw [List.map_map, hsnd, List.map_id] at hmap
  exact hmap

theorem mem_visits_iff {place names : List Text} :
    names ∈ visits t place ↔ names ∈ below t place ∧
      (isCandidate names = true ∨ t.node? (place ++ names) = some .directory) := by
  rw [(perm_visits t place).mem_iff, List.mem_filter]
  simp [isVisited]

theorem mem_keepFiles_iff {visited : List (List Text)} {ps : List Path}
    (h : keepFiles t suffixes directory visited = .ok ps) {p : Path} :
    p ∈ ps ↔ ∃ names ∈ visited, p = directory.child names ∧ t.isFile p = .ok true ∧
      isCandidate names = true ∧ isModuleFile suffixes p = true := by
  induction visited generalizing ps with
  | nil =>
    obtain rfl := Except.ok.inj h
    simp
  | cons n rest ih =>
    simp only [keepFiles] at h
    cases hf : t.isFile (directory.child n) with
    | error e => simp [hf] at h
    | ok isFile =>
      cases hk : keepFiles t suffixes directory rest with
      | error e => simp [hf, hk] at h
      | ok qs =>
        simp only [hf, hk, Except.ok.injEq] at h
        subst h
        have hhere : p = directory.child n ∧ t.isFile p = .ok true ∧ isCandidate n = true ∧
            isModuleFile suffixes p = true ↔
            p = directory.child n ∧
              (isFile && isCandidate n && isModuleFile suffixes (directory.child n)) = true := by
          constructor
          · rintro ⟨rfl, hfile, hcandidate, hmodule⟩
            rw [hf] at hfile
            exact ⟨rfl, by rw [Except.ok.inj hfile, hcandidate, hmodule]; rfl⟩
          · rintro ⟨rfl, hall⟩
            simp only [Bool.and_eq_true] at hall
            exact ⟨rfl, by rw [hf, hall.1.1], hall.1.2, hall.2⟩
        simp only [List.mem_cons, exists_eq_or_imp, hhere, ← ih hk]
        split
        case isTrue hkept => simp [hkept]
        case isFalse hkept => simp [hkept]

theorem exists_keepFiles_of_find (hd : t.isDirectory directory = .ok true) {ps : List Path}
    (h : (find t suffixes directory).2 = .ok ps) :
    ∃ place qs, t.locate directory = .ok (place, .directory) ∧
      keepFiles t suffixes directory (visits t place) = .ok qs ∧
      ∀ p, p ∈ ps ↔ p ∈ qs := by
  obtain ⟨place, node, hl, hnode⟩ := FileTree.exists_locate_of_test hd
  cases node with
  | file bytes => cases hnode
  | directory =>
    simp only [find, hd, hl] at h
    cases hk : keepFiles t suffixes directory (visits t place) with
    | error e => simp [hk, Except.map] at h
    | ok qs =>
      rw [hk] at h
      obtain rfl := Except.ok.inj h
      exact ⟨place, qs, hl, hk, fun p => List.mem_mergeSort⟩

theorem not_mem_of_not_isHidden {names : List Text} (h : names.any isHidden = false) :
    ['.', '.'] ∉ names := by
  intro hmem
  have hdots := List.any_eq_false.mp h _ hmem
  exact hdots rfl

theorem name_child (directory : Path) {names : List Text} (hne : names ≠ []) :
    (directory.child names).name = names.getLastD [] := by
  obtain ⟨front, n, rfl⟩ := (List.eq_nil_or_concat names).resolve_left hne
  simp [Path.name, Path.child, List.getLastD_eq_getLast?]

/-- Whatever is a module file and not hidden is looked at. -/
theorem isCandidate_of_isModuleFile {names : List Text} (hne : names ≠ [])
    (hvisible : names.any isHidden = false)
    (hmodule : isModuleFile suffixes (directory.child names) = true) : isCandidate names = true := by
  simp only [isModuleFile, Bool.and_eq_true, decide_eq_true_eq] at hmodule
  have hlua := Path.endsWith_of_suffix hmodule.1 (by decide)
  rw [name_child directory hne] at hlua
  rw [isCandidate, hlua, hvisible]
  rfl

/-- A search lists the module files that a path through names leads to, none of which is hidden. -/
theorem mem_find_iff (hd : t.isDirectory directory = .ok true) {ps : List Path}
    (h : (find t suffixes directory).2 = .ok ps) {p : Path} :
    p ∈ ps ↔ t.isFile p = .ok true ∧ isModuleFile suffixes p = true ∧
      ∃ names, p = directory.child names ∧ names.any isHidden = false := by
  obtain ⟨place, qs, hl, hk, hsame⟩ := exists_keepFiles_of_find hd h
  rw [hsame, mem_keepFiles_iff hk]
  constructor
  · rintro ⟨names, -, rfl, hfile, hcandidate, hmodule⟩
    simp only [isCandidate, Bool.and_eq_true, Bool.not_eq_true'] at hcandidate
    exact ⟨hfile, hmodule, names, rfl, hcandidate.2⟩
  · rintro ⟨hfile, hmodule, names, rfl, hvisible⟩
    obtain ⟨place', node, hc, hnode⟩ := FileTree.exists_locate_of_test hfile
    have hwalk := FileTree.walk_child hl hc
    have hne : names ≠ [] := by
      rintro rfl
      obtain ⟨-, rfl⟩ := Prod.mk.inj (Except.ok.inj hwalk)
      cases hnode
    obtain ⟨-, hat⟩ := FileTree.walk_down (not_mem_of_not_isHidden hvisible) hwalk
    have hbelow := mem_below hne (FileTree.mem_nodes_of_node? (by simp [hne]) (hat hne))
    have hcandidate := isCandidate_of_isModuleFile hne hvisible hmodule
    exact ⟨names, mem_visits_iff.mpr ⟨hbelow, Or.inl hcandidate⟩, rfl, hfile, hcandidate, hmodule⟩

theorem isModuleFile_congr {p q : Path} (h : p.name = q.name) (suffixes : List Text) :
    isModuleFile suffixes p = isModuleFile suffixes q := by
  have hsuffix : p.suffix = q.suffix := by rw [Path.suffix, Path.suffix, h]
  rw [isModuleFile, isModuleFile, h, hsuffix]

/-- A module file has a name, and not that of a directory itself. -/
theorem name_of_isModuleFile {p : Path} (h : isModuleFile suffixes p = true) :
    p.name ≠ [] ∧ p.name ≠ ['.'] := by
  simp only [isModuleFile, Bool.and_eq_true, decide_eq_true_eq] at h
  have hend := Path.endsWith_of_suffix h.1 (by decide)
  constructor
  · intro hname
    rw [hname] at hend
    exact absurd hend (by decide)
  · intro hname
    rw [hname] at hend
    exact absurd hend (by decide)

theorem mem_of_mem_below {place names : List Text} (h : names ∈ below t place) :
    names ≠ [] ∧ ∃ e ∈ t.nodes, e.1 = place ++ names := by
  rw [below, List.mem_eraseDups, List.mem_filterMap] at h
  obtain ⟨e, he, hsome⟩ := h
  split at hsome
  case isFalse => cases hsome
  case isTrue hbelow =>
    obtain ⟨rest, hrest⟩ := List.isPrefixOf_iff_prefix.mp hbelow.1
    obtain rfl : e.1.drop place.length = names := Option.some.inj hsome
    rw [← hrest, List.drop_left]
    refine ⟨?_, e, he, hrest.symm⟩
    rintro rfl
    exact hbelow.2 (by rw [← hrest, List.append_nil])

/-- In a tree whose names have no slashes, what a search finds has the text of a module file. -/
theorem isModuleFile_of_mem_find (ht : t.SlashFree) {notices : List Notice} {ps : List Path}
    (h : find t suffixes directory = (notices, .ok ps)) {p : Path} (hp : p ∈ ps) :
    isModuleFile suffixes (.ofText p.text) = true := by
  have hfound : (find t suffixes directory).2 = .ok ps := by rw [h]
  have hd : t.isDirectory directory = .ok true := by
    unfold find at h
    split at h
    case h_1 => simp at h
    case h_2 =>
      obtain ⟨-, hps⟩ := Prod.mk.inj h
      obtain rfl := Except.ok.inj hps
      cases hp
    case h_3 hd => exact hd
  obtain ⟨place, qs, -, hk, hsame⟩ := exists_keepFiles_of_find hd hfound
  obtain ⟨names, hmem, rfl, -, -, hmodule⟩ := (mem_keepFiles_iff hk).mp ((hsame p).mp hp)
  obtain ⟨hne, e, he, hplace⟩ := mem_of_mem_below (mem_visits_iff.mp hmem).1
  obtain ⟨hname, hdot⟩ := name_of_isModuleFile hmodule
  have hslash : '/' ∉ (directory.child names).name := by
    rw [name_child directory hne]
    obtain ⟨front, n, rfl⟩ := (List.eq_nil_or_concat names).resolve_left hne
    have hlast : (front.concat n).getLastD [] = n := by simp [List.getLastD_eq_getLast?]
    rw [hlast]
    exact ht e he n (by rw [hplace]; simp)
  rw [isModuleFile_congr (Path.name_ofText_text hname hdot hslash) suffixes]
  exact hmodule

theorem isModuleFile_of_mem_findAll (ht : t.SlashFree) {seen directories : List Path}
    {notices : List Notice} {ps : List Path}
    (h : findAll t suffixes seen directories = (notices, .ok ps)) {p : Path} (hp : p ∈ ps) :
    isModuleFile suffixes (.ofText p.text) = true := by
  obtain ⟨directory, more, qs, hf, hq⟩ := exists_find_of_mem_findAll h hp
  exact isModuleFile_of_mem_find ht hf hq

end Discovery

end LuaIndex
