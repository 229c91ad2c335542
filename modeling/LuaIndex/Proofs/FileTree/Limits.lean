import LuaIndex.FileTree.Disk
import LuaIndex.Proofs.Discovery.Listed

namespace LuaIndex

theorem Utf8.size_append (a b : Text) : Utf8.size (a ++ b) = Utf8.size a + Utf8.size b := by
  simp [Utf8.size, Utf8.encode]

/-- A path takes at least the bytes that its names take. -/
theorem Path.mul_length_le_size {p : Path} {k : Nat} (h : ∀ n ∈ p.names, k ≤ Utf8.size n) :
    k * p.names.length ≤ Utf8.size p.text := by
  have hnames : ∀ names : List Text, (∀ n ∈ names, k ≤ Utf8.size n) →
      k * names.length ≤ Utf8.size (List.intercalate ['/'] names) := by
    intro names hk
    induction names with
    | nil => exact Nat.zero_le _
    | cons n names ih =>
      rw [List.forall_mem_cons] at hk
      cases names with
      | nil => simpa using hk.1
      | cons m names =>
        have hrest := ih hk.2
        rw [List.intercalate_cons_cons, Utf8.size_append, Utf8.size_append, List.length_cons,
          Nat.mul_succ]
        omega
  unfold Path.text
  split
  case isTrue hempty =>
    rw [hempty.2]
    exact Nat.zero_le _
  case isFalse =>
    rw [Utf8.size_append]
    exact Nat.le_trans (hnames p.names h) (Nat.le_add_left _ _)

namespace FileTree

variable {t : FileTree} {p : Path}

/-- The name is longer than a name in a directory can be. -/
def LongName (n : Text) : Prop :=
  n ≠ ['.', '.'] ∧ nameLimit < Utf8.size n

/-- The path takes too many bytes, or a walk along it gets from directory to directory to a name that
does. -/
def TooLong (t : FileTree) (p : Path) : Prop :=
  Char.ofNat 0 ∉ p.text ∧
    (pathLimit ≤ Utf8.size p.text ∨
      ∃ before n after place, p.names = before ++ n :: after ∧ LongName n ∧
        t.walk (if p.slashes = 0 then t.cwd else []) .directory before = .ok (place, .directory))

theorem exists_longName_of_walk {place : List Text} {node : Node} {names : List Text}
    (h : t.walk place node names = .error .nameTooLong) :
    ∃ before n after place', names = before ++ n :: after ∧ LongName n ∧
      t.walk place node before = .ok (place', .directory) := by
  induction names generalizing place node with
  | nil => cases h
  | cons n names ih =>
    cases node with
    | file bytes => cases h
    | directory =>
      by_cases hup : n = ['.', '.']
      case pos =>
        rw [walk, if_pos hup] at h
        obtain ⟨before, m, after, place', rfl, hm, hwalk⟩ := ih h
        refine ⟨n :: before, m, after, place', rfl, hm, ?_⟩
        rw [walk, if_pos hup, hwalk]
      case neg =>
        by_cases hlong : nameLimit < Utf8.size n
        case pos => exact ⟨[], n, names, place, rfl, ⟨hup, hlong⟩, rfl⟩
        case neg =>
          rw [walk, if_neg hup, if_neg hlong] at h
          cases hn : t.node? (place ++ [n]) with
          | none => simp [hn] at h
          | some node =>
            rw [hn] at h
            obtain ⟨before, m, after, place', rfl, hm, hwalk⟩ := ih h
            refine ⟨n :: before, m, after, place', rfl, hm, ?_⟩
            rw [walk, if_neg hup, if_neg hlong, hn]
            exact hwalk

theorem walk_eq_nameTooLong_iff {place : List Text} {node : Node} {names : List Text} :
    t.walk place node names = .error .nameTooLong ↔
      ∃ before n after place', names = before ++ n :: after ∧ LongName n ∧
        t.walk place node before = .ok (place', .directory) := by
  constructor
  · exact exists_longName_of_walk
  · rintro ⟨before, n, after, place', rfl, ⟨hup, hlong⟩, hwalk⟩
    rw [walk_append, hwalk]
    simp only [walk, if_neg hup, if_pos hlong]

/-- Only of a path that is too long nobody can tell whether there is something of a kind. -/
theorem test_eq_error_iff {kind : Node → Bool} {e : FileError} :
    t.test kind p = .error e ↔ t.TooLong p ∧ e = .nameTooLong p.text := by
  unfold test locate TooLong
  by_cases hnull : Char.ofNat 0 ∈ p.text
  case pos => simp [hnull]
  case neg =>
    by_cases hsize : pathLimit ≤ Utf8.size p.text
    case pos => simp [hnull, hsize, eq_comm]
    case neg =>
      rw [← walk_eq_nameTooLong_iff]
      simp only [hnull, hsize, if_false, not_false_eq_true, true_and, false_or]
      cases t.walk (if p.slashes = 0 then t.cwd else []) .directory p.names with
      | ok found => simp
      | error obstacle => cases obstacle <;> simp [eq_comm]

theorem not_tooLong_of_test {kind : Node → Bool} {b : Bool} (h : t.test kind p = .ok b) :
    ¬ t.TooLong p := by
  intro hlong
  rw [test_eq_error_iff.mpr ⟨hlong, rfl⟩] at h
  cases h

end FileTree

namespace Disk

variable {disk : Disk} {t : FileTree} {p : Path} {kind : Node → Bool}

/-- Nobody tells what is at the path: the system refuses to, or the path is too long. -/
def Hides (disk : Disk) (t : FileTree) (p : Path) : Prop :=
  disk.refusal? t p ≠ none ∨ t.TooLong p

theorem exists_test_eq_error_iff : (∃ e, disk.test t kind p = .error e) ↔ disk.Hides t p := by
  unfold test Hides
  cases disk.refusal? t p with
  | some cause => simp
  | none => simp [FileTree.test_eq_error_iff]

theorem not_hides_of_test {b : Bool} (h : disk.test t kind p = .ok b) : ¬ disk.Hides t p := by
  intro hhidden
  obtain ⟨e, he⟩ := exists_test_eq_error_iff.mpr hhidden
  rw [h] at he
  cases he

/-- What is told agrees with the tree. -/
theorem test_of_ok {b : Bool} (h : disk.test t kind p = .ok b) : t.test kind p = .ok b := by
  unfold test at h
  cases hr : disk.refusal? t p with
  | some cause => simp [hr] at h
  | none => simpa only [hr] using h

end Disk

end LuaIndex
