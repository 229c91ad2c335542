import LuaIndex.Discovery
import Mathlib.Data.List.Basic

namespace LuaIndex

namespace Path

theorem mem_of_mem_parts {t p : Text} {c : Char} (hp : p ∈ parts t) (hc : c ∈ p) : c ∈ t := by
  induction t generalizing p with
  | nil =>
    obtain rfl : p = [] := by simpa [parts] using hp
    cases hc
  | cons d rest ih =>
    by_cases hd : d = '/'
    · rw [parts, if_pos hd] at hp
      rcases List.mem_cons.mp hp with rfl | hp
      · cases hc
      · exact List.mem_cons_of_mem d (ih hp hc)
    · rw [parts, if_neg hd] at hp
      cases hl : parts rest with
      | nil =>
        rw [hl] at hp
        obtain rfl : p = [d] := by simpa using hp
        simp [List.mem_singleton.mp hc]
      | cons q qs =>
        rw [hl] at hp ih
        rcases List.mem_cons.mp hp with rfl | hp
        · rcases List.mem_cons.mp hc with rfl | hc
          · exact List.mem_cons_self
          · exact List.mem_cons_of_mem d (ih List.mem_cons_self hc)
        · exact List.mem_cons_of_mem d (ih (List.mem_cons_of_mem q hp) hc)

theorem mem_of_mem_intercalate {names : List Text} {c : Char}
    (h : c ∈ List.intercalate ['/'] names) : c = '/' ∨ ∃ n ∈ names, c ∈ n := by
  induction names with
  | nil => simp at h
  | cons n names ih =>
    cases names with
    | nil => exact Or.inr ⟨n, List.mem_cons_self, by simpa using h⟩
    | cons m names =>
      simp only [List.intercalate_cons_cons, List.mem_append, List.mem_singleton] at h
      rcases h with (h | h) | h
      · exact Or.inr ⟨n, List.mem_cons_self, h⟩
      · exact Or.inl h
      · refine (ih h).imp id ?_
        rintro ⟨k, hk, hc⟩
        exact ⟨k, List.mem_cons_of_mem n hk, hc⟩

/-- Reading a text as a path brings in dots and slashes only. -/
theorem mem_of_mem_text_ofText {t : Text} {c : Char} (h : c ∈ (ofText t).text) (hdot : c ≠ '.')
    (hslash : c ≠ '/') : c ∈ t := by
  unfold text at h
  split at h
  case isTrue => exact absurd (List.mem_singleton.mp h) hdot
  case isFalse =>
    rcases List.mem_append.mp h with h | h
    · exact absurd (List.eq_of_mem_replicate h) hslash
    · rcases mem_of_mem_intercalate h with h | ⟨n, hn, hc⟩
      · exact absurd h hslash
      · exact mem_of_mem_parts (List.mem_of_mem_filter hn) hc

end Path

namespace FileTree

/-- What is there has a path that a file can have. -/
theorem not_mem_of_test {t : FileTree} {kind : Node → Bool} {p : Path}
    (h : t.test kind p = .ok true) : Char.ofNat 0 ∉ p.text := by
  intro hnull
  have hl : t.locate p = .error .nullCharacter := by rw [locate, if_pos hnull]
  rw [test, hl] at h
  cases h

theorem locate_ne_nullCharacter {t : FileTree} {p : Path} (h : Char.ofNat 0 ∉ p.text) :
    t.locate p ≠ .error .nullCharacter := by
  intro hl
  rw [locate, if_neg h] at hl
  split at hl
  case isTrue => cases hl
  case isFalse => split at hl <;> cases hl

theorem readText_ne_nullCharacter {t : FileTree} {p : Path} (h : Char.ofNat 0 ∉ p.text) :
    t.readText p ≠ .error .nullCharacter := by
  intro hr
  cases hl : t.locate p with
  | error e =>
    obtain rfl : e = .nullCharacter := by simpa [readText, readRaw, readBytes, hl] using hr
    exact locate_ne_nullCharacter h hl
  | ok found =>
    obtain ⟨place, node⟩ := found
    cases node with
    | directory => simp [readText, readRaw, readBytes, hl] at hr
    | file bytes =>
      cases hd : Utf8.decode bytes <;> simp [readText, readRaw, readBytes, hl, hd] at hr

/-- A file of which nobody can say whether it is there cannot be read. -/
theorem readText_ne_ok_of_exists? {t : FileTree} {p : Path} {e : FileError}
    (he : t.exists? p = .error e) (source : Text) : t.readText p ≠ .ok source := by
  unfold exists? test at he
  cases hl : t.locate p with
  | ok found => simp [hl] at he
  | error e' => simp [readText, readRaw, readBytes, hl]

end FileTree

namespace Discovery

variable {t : FileTree} {suffixes : List Text}

theorem isFile_of_mem_keepFiles {directory : Path} {names : List (List Text)} {ps : List Path}
    (h : keepFiles t suffixes directory names = .ok ps) {p : Path} (hp : p ∈ ps) :
    t.isFile p = .ok true := by
  induction names generalizing ps with
  | nil =>
    obtain rfl := Except.ok.inj h
    cases hp
  | cons n names ih =>
    simp only [keepFiles] at h
    cases hf : t.isFile (directory.child n) with
    | error e => simp [hf] at h
    | ok isFile =>
      cases hk : keepFiles t suffixes directory names with
      | error e => simp [hf, hk] at h
      | ok qs =>
        simp only [hf, hk, Except.ok.injEq] at h
        subst h
        split at hp
        case isTrue hkept =>
          rcases List.mem_cons.mp hp with rfl | hp
          · simp only [Bool.and_eq_true] at hkept
            rw [hf, hkept.1.1]
          · exact ih hk hp
        case isFalse => exact ih hk hp

theorem isFile_of_mem_find {directory : Path} {notices : List Notice} {ps : List Path}
    (h : find t suffixes directory = (notices, .ok ps)) {p : Path} (hp : p ∈ ps) :
    t.isFile p = .ok true := by
  unfold find at h
  split at h
  case h_1 => simp at h
  case h_2 =>
    obtain ⟨-, hps⟩ := Prod.mk.inj h
    obtain rfl := Except.ok.inj hps
    cases hp
  case h_3 =>
    split at h
    case h_1 => simp at h
    case h_2 place _ _ =>
      obtain ⟨-, hps⟩ := Prod.mk.inj h
      cases hk : keepFiles t suffixes directory (visits t place) with
      | error e => simp [hk, Except.map] at hps
      | ok qs =>
        rw [hk] at hps
        obtain rfl := Except.ok.inj hps
        exact isFile_of_mem_keepFiles hk (List.mem_mergeSort.mp hp)

theorem mem_of_mem_pick {seen ps : List Path} {p : Path} (h : p ∈ (findAll.pick t seen ps).2) :
    p ∈ ps := by
  induction ps generalizing seen with
  | nil => cases h
  | cons q ps ih =>
    simp only [findAll.pick] at h
    split at h
    case isTrue => exact List.mem_cons_of_mem q (ih h)
    case isFalse =>
      rcases List.mem_cons.mp h with rfl | h
      · exact List.mem_cons_self
      · exact List.mem_cons_of_mem q (ih h)

/-- Whatever is found was found below one of the directories. -/
theorem exists_find_of_mem_findAll {seen directories : List Path} {notices : List Notice}
    {ps : List Path} (h : findAll t suffixes seen directories = (notices, .ok ps)) {p : Path}
    (hp : p ∈ ps) :
    ∃ directory more qs, find t suffixes directory = (more, .ok qs) ∧ p ∈ qs := by
  induction directories generalizing seen notices ps with
  | nil =>
    obtain ⟨-, hps⟩ := Prod.mk.inj h
    obtain rfl := Except.ok.inj hps
    cases hp
  | cons directory rest ih =>
    simp only [findAll] at h
    split at h
    case h_1 => simp at h
    case h_2 found qs hf =>
      split at h
      case h_1 => simp at h
      case h_2 more rs hr =>
        obtain ⟨-, hps⟩ := Prod.mk.inj h
        obtain rfl := Except.ok.inj hps
        rcases List.mem_append.mp hp with hp | hp
        · exact ⟨directory, found, qs, hf, mem_of_mem_pick hp⟩
        · exact ih hr hp

/-- Whatever is found is a file. -/
theorem isFile_of_mem_findAll {seen directories : List Path} {notices : List Notice}
    {ps : List Path} (h : findAll t suffixes seen directories = (notices, .ok ps)) {p : Path}
    (hp : p ∈ ps) : t.isFile p = .ok true := by
  obtain ⟨directory, more, qs, hf, hq⟩ := exists_find_of_mem_findAll h hp
  exact isFile_of_mem_find hf hq

/-- A file that is found can be named. -/
theorem readText_found_ne {seen directories : List Path} {notices : List Notice} {ps : List Path}
    (h : findAll t suffixes seen directories = (notices, .ok ps)) {p : Path} (hp : p ∈ ps) :
    t.readText (.ofText p.text) ≠ .error .nullCharacter := by
  refine FileTree.readText_ne_nullCharacter fun hnull => ?_
  have hmem := Path.mem_of_mem_text_ofText hnull (by decide) (by decide)
  exact FileTree.not_mem_of_test (isFile_of_mem_findAll h hp) hmem

end Discovery

end LuaIndex
