import LuaIndex.FileTree.Change
import LuaIndex.Proofs.FileTree.Limits
import Mathlib.Data.List.Induction

namespace LuaIndex

namespace Path

theorem mem_intercalate_of_mem {names : List Text} {n : Text} {c : Char} (hn : n ∈ names)
    (hc : c ∈ n) : c ∈ List.intercalate ['/'] names := by
  induction names with
  | nil => cases hn
  | cons m names ih =>
    cases names with
    | nil =>
      rw [List.mem_singleton] at hn
      simpa [← hn] using hc
    | cons k names =>
      rw [List.intercalate_cons_cons, List.append_assoc, List.mem_append]
      rcases List.mem_cons.mp hn with rfl | hn
      · exact Or.inl hc
      · exact Or.inr (List.mem_append_right ['/'] (ih hn))

/-- The characters of a path are those of its names, dots and slashes apart. -/
theorem mem_text_iff {p : Path} {c : Char} (hdot : c ≠ '.') (hslash : c ≠ '/') :
    c ∈ p.text ↔ ∃ n ∈ p.names, c ∈ n := by
  constructor
  · intro h
    unfold text at h
    split at h
    case isTrue => exact absurd (List.mem_singleton.mp h) hdot
    case isFalse =>
      rcases List.mem_append.mp h with h | h
      · exact absurd (List.eq_of_mem_replicate h) hslash
      · exact (mem_of_mem_intercalate h).resolve_left hslash
  · intro h
    obtain ⟨n, hn, hc⟩ := h
    unfold text
    rw [if_neg fun hempty => List.ne_nil_of_mem hn hempty.2]
    exact List.mem_append_right _ (mem_intercalate_of_mem hn hc)

theorem child_injective (p : Path) : Function.Injective p.child :=
  fun _ _ h => List.append_cancel_left (congrArg names h)

end Path

namespace FileTree

/-- A name that something in a directory can have. Dots alone name a directory itself and the one that it
lies in. -/
def NodeName (n : Text) : Prop :=
  n ≠ [] ∧ n ≠ ['.'] ∧ n ≠ ['.', '.'] ∧ '/' ∉ n ∧ Char.ofNat 0 ∉ n ∧ Utf8.size n ≤ nameLimit

instance (n : Text) : Decidable (NodeName n) :=
  inferInstanceAs (Decidable (_ ∧ _))

/-- As on every disk, what is in the tree has proper names and lies in a directory, and relative paths
start from a directory. -/
structure WellFormed (t : FileTree) : Prop where
  named : ∀ e ∈ t.nodes, ∀ n ∈ e.1, NodeName n
  inside : ∀ e ∈ t.nodes, t.node? e.1.dropLast = some .directory
  working : t.node? t.cwd = some .directory

variable {t : FileTree} {place names : List Text} {node : Node}

theorem WellFormed.nodeName (ht : t.WellFormed) (h : t.node? place = some node) :
    ∀ n ∈ place, NodeName n := by
  intro n hn
  have hmem := mem_nodes_of_node? (List.ne_nil_of_mem hn) h
  exact ht.named _ hmem n hn

/-- Whatever lies above something is a directory. -/
theorem WellFormed.above (ht : t.WellFormed) (hne : names ≠ [])
    (h : t.node? (place ++ names) = some node) : t.node? place = some .directory := by
  induction names using List.reverseRecOn generalizing node with
  | nil => exact absurd rfl hne
  | append_singleton front n ih =>
    have hmem : (place ++ (front ++ [n]), node) ∈ t.nodes :=
      mem_nodes_of_node? (by simp) h
    have hparent := ht.inside _ hmem
    rw [← List.append_assoc, List.dropLast_concat] at hparent
    by_cases hfront : front = []
    · rwa [hfront, List.append_nil] at hparent
    · exact ih hfront hparent

/-- A walk down the names of something gets there. -/
theorem WellFormed.walk_eq (ht : t.WellFormed) (hne : names ≠ [])
    (h : t.node? (place ++ names) = some node) :
    t.walk place .directory names = .ok (place ++ names, node) := by
  induction names generalizing place with
  | nil => exact absurd rfl hne
  | cons n rest ih =>
    have hjoin : place ++ n :: rest = place ++ [n] ++ rest := by simp
    obtain ⟨-, -, hup, -, -, hshort⟩ := ht.nodeName h n (by simp)
    rw [walk, if_neg hup, if_neg (Nat.not_lt_of_le hshort)]
    rw [hjoin] at h ⊢
    by_cases hrest : rest = []
    · subst hrest
      rw [List.append_nil] at h ⊢
      simp only [h, walk]
    · have hdirectory := ht.above hrest h
      simp only [hdirectory]
      exact ih hrest h

/-- What lies below a directory has a path without the null character. -/
theorem WellFormed.not_mem_text (ht : t.WellFormed) {directory : Path}
    (hnull : Char.ofNat 0 ∉ directory.text) (h : t.node? (place ++ names) = some node) :
    Char.ofNat 0 ∉ (directory.child names).text := by
  intro hmem
  rw [Path.mem_text_iff (by decide) (by decide)] at hmem
  obtain ⟨n, hn, hc⟩ := hmem
  rcases List.mem_append.mp hn with hn | hn
  · exact hnull ((Path.mem_text_iff (by decide) (by decide)).mpr ⟨n, hn, hc⟩)
  · have hname := ht.nodeName h n (List.mem_append_right place hn)
    exact hname.2.2.2.2.1 hc

/-- What lies below a directory is found by its path, if this is short enough. -/
theorem WellFormed.locate_child (ht : t.WellFormed) {directory : Path}
    (hd : t.locate directory = .ok (place, .directory)) (hne : names ≠ [])
    (h : t.node? (place ++ names) = some node)
    (hshort : Utf8.size (directory.child names).text < pathLimit) :
    t.locate (directory.child names) = .ok (place ++ names, node) := by
  obtain ⟨hnull, -, hwalk⟩ := locate_eq_ok_iff.mp hd
  refine locate_eq_ok_iff.mpr ⟨ht.not_mem_text hnull h, hshort, ?_⟩
  rw [Path.child, walk_append, hwalk]
  exact ht.walk_eq hne h

/-- Whether something below a directory is of a kind can be told exactly if its path is short enough. -/
theorem WellFormed.test_child (ht : t.WellFormed) {directory : Path}
    (hd : t.locate directory = .ok (place, .directory)) (hne : names ≠ [])
    (h : t.node? (place ++ names) = some node) (kind : Node → Bool) :
    t.test kind (directory.child names) =
      if pathLimit ≤ Utf8.size (directory.child names).text then
        .error (.nameTooLong (directory.child names).text)
      else .ok (kind node) := by
  split
  case isTrue hlong =>
    obtain ⟨hnull, -, -⟩ := locate_eq_ok_iff.mp hd
    exact test_eq_error_iff.mpr ⟨⟨ht.not_mem_text hnull h, Or.inl hlong⟩, rfl⟩
  case isFalse hshort =>
    have hlocate := ht.locate_child hd hne h (Nat.lt_of_not_le hshort)
    simp only [test, hlocate]

/-- A walk ends where its names lead when each pair of dots takes back the name before it. -/
theorem foldl_of_walk {place' : List Text} {node' : Node}
    (h : t.walk place node names = .ok (place', node')) :
    names.foldl (fun done n => if n = ['.', '.'] then done.drop 1 else n :: done) place.reverse =
      place'.reverse := by
  induction names generalizing place node with
  | nil =>
    obtain ⟨rfl, -⟩ := Prod.mk.inj (Except.ok.inj h)
    rfl
  | cons n names ih =>
    cases node with
    | file bytes => cases h
    | directory =>
      rw [List.foldl_cons]
      simp only [walk] at h
      split at h
      case isTrue hup =>
        have hdrop : place.reverse.drop 1 = place.dropLast.reverse := by
          rw [List.drop_one, List.tail_reverse]
        rw [if_pos hup, hdrop]
        exact ih h
      case isFalse hup =>
        split at h
        case isTrue => cases h
        case isFalse =>
          split at h
          case h_1 => cases h
          case h_2 =>
            have hrest := ih h
            rw [List.reverse_append] at hrest
            rw [if_neg hup]
            exact hrest

theorem collapse_of_walk {place' : List Text} {node' : Node} (hup : ['.', '.'] ∉ place)
    (h : t.walk place node names = .ok (place', node')) :
    Path.collapse (place ++ names) = place' := by
  have hdown : ∀ (done : List Text) (ns : List Text), ['.', '.'] ∉ ns →
      ns.foldl (fun done n => if n = ['.', '.'] then done.drop 1 else n :: done) done =
        ns.reverse ++ done := by
    intro done ns hns
    induction ns generalizing done with
    | nil => rfl
    | cons n ns ih =>
      simp only [List.mem_cons, not_or] at hns
      rw [List.foldl_cons, if_neg (Ne.symm hns.1), ih _ hns.2]
      simp
  rw [Path.collapse, List.foldl_append, hdown [] place hup, List.append_nil, foldl_of_walk h,
    List.reverse_reverse]

/-- The absolute path of what is there names its place. -/
theorem WellFormed.placeOf_eq (ht : t.WellFormed) {p : Path} (h : t.locate p = .ok (place, node)) :
    t.placeOf p = place := by
  refine collapse_of_walk ?_ (walk_of_locate h)
  split
  case isTrue =>
    intro hmem
    exact (ht.nodeName ht.working _ hmem).2.2.1 rfl
  case isFalse => exact List.not_mem_nil

theorem WellFormed.resolve_eq (ht : t.WellFormed) {p : Path} (h : t.locate p = .ok (place, node)) :
    t.resolve p = .ok ⟨1, place⟩ := by
  have hplace : Path.collapse ((if p.slashes = 0 then t.cwd else []) ++ p.names) = place :=
    ht.placeOf_eq h
  rw [resolve, if_neg (locate_eq_ok_iff.mp h).1, hplace]

end FileTree

end LuaIndex
