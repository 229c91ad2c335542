import LuaIndex.Table
import Mathlib.Data.List.Basic
import Mathlib.Data.List.Induction

namespace LuaIndex

theorem eraseDups_concat (names : List Text) (name : Text) :
    (names ++ [name]).eraseDups =
      if name ∈ names then names.eraseDups else names.eraseDups ++ [name] := by
  rw [List.eraseDups_append]
  split
  case isTrue h => simp [List.removeAll, h]
  case isFalse h => simp [List.removeAll, h, List.eraseDups_cons]

namespace Table

variable {α : Type}

theorem keys_put (t : Table α) (key : Text) (value : α) :
    (t.put key value).keys = if key ∈ t.keys then t.keys else t.keys ++ [key] := by
  induction t with
  | nil => simp [put, keys]
  | cons e rest ih =>
    obtain ⟨k, v⟩ := e
    simp only [keys] at ih
    by_cases hk : k = key
    · simp [put, keys, hk]
    · have hkey : key ∈ k :: rest.map Prod.fst ↔ key ∈ rest.map Prod.fst := by simp [Ne.symm hk]
      simp only [put, keys, hk, if_false, List.map_cons, ih, hkey]
      by_cases hmem : key ∈ rest.map Prod.fst <;> simp only [hmem, if_true, if_false, List.cons_append]

theorem ofList_concat (entries : List (Text × α)) (e : Text × α) :
    ofList (entries ++ [e]) = (ofList entries).put e.1 e.2 := by
  simp [ofList]

/-- The names stand in the order in which they first came, each once. -/
theorem keys_ofList (entries : List (Text × α)) :
    (ofList entries).keys = (entries.map Prod.fst).eraseDups := by
  induction entries using List.reverseRecOn with
  | nil => rfl
  | append_singleton entries e ih =>
    rw [ofList_concat, keys_put, ih, List.map_append, List.map_singleton, eraseDups_concat]
    simp only [List.mem_eraseDups]

theorem nodup_keys_ofList (entries : List (Text × α)) : (ofList entries).keys.Nodup := by
  induction entries using List.reverseRecOn with
  | nil => exact List.nodup_nil
  | append_singleton entries e ih =>
    rw [ofList_concat]
    exact nodup_keys_put ih e.1 e.2

/-- The value of a name is that of the last entry under it. -/
theorem get?_ofList_eq_some_iff {entries : List (Text × α)} {key : Text} {value : α} :
    (ofList entries).get? key = some value ↔
      ∃ earlier later, entries = earlier ++ (key, value) :: later ∧ ∀ e ∈ later, e.1 ≠ key := by
  induction entries using List.reverseRecOn with
  | nil => simp [ofList, get?]
  | append_singleton entries e ih =>
    rw [ofList_concat, get?_put]
    constructor
    · intro h
      split at h
      case isTrue hk =>
        obtain ⟨k, v⟩ := e
        obtain rfl := Option.some.inj h
        exact ⟨entries, [], by rw [← hk], by simp⟩
      case isFalse hk =>
        obtain ⟨earlier, later, rfl, hlater⟩ := ih.mp h
        refine ⟨earlier, later ++ [e], by simp, ?_⟩
        intro d hd
        rcases List.mem_append.mp hd with hd | hd
        · exact hlater d hd
        · rwa [List.mem_singleton.mp hd]
    · rintro ⟨earlier, later, hsplit, hlater⟩
      rcases List.eq_nil_or_concat' later with rfl | ⟨later, d, rfl⟩
      · obtain ⟨-, he⟩ := List.append_inj' hsplit rfl
        rw [List.singleton_inj.mp he, if_pos rfl]
      · rw [← List.cons_append, ← List.append_assoc] at hsplit
        obtain ⟨rfl, he⟩ := List.append_inj' hsplit rfl
        obtain rfl := List.singleton_inj.mp he
        rw [if_neg (hlater e (by simp))]
        exact ih.mpr ⟨earlier, later, rfl, fun x hx => hlater x (by simp [hx])⟩

end Table

end LuaIndex
