import LuaIndex.Text.Basic

namespace LuaIndex

abbrev Table (α : Type) := List (Text × α)

namespace Table

variable {α : Type}

def get? : Table α → Text → Option α
  | [], _ => none
  | (k, v) :: rest, key => if k = key then some v else get? rest key

/-- A known name keeps its place and takes the new value, a new name goes to the end. -/
def put : Table α → Text → α → Table α
  | [], key, value => [(key, value)]
  | (k, v) :: rest, key, value =>
    if k = key then (k, value) :: rest else (k, v) :: put rest key value

def erase (t : Table α) (key : Text) : Table α :=
  t.filter fun e => e.1 ≠ key

def keys (t : Table α) : List Text :=
  t.map Prod.fst

def values (t : Table α) : List α :=
  t.map Prod.snd

/-- The table that a list of entries fills, one after the other. -/
def ofList (entries : List (Text × α)) : Table α :=
  entries.foldl (fun t e => t.put e.1 e.2) []

theorem get?_put (t : Table α) (key other : Text) (value : α) :
    (t.put key value).get? other = if key = other then some value else t.get? other := by
  induction t with
  | nil => by_cases h : key = other <;> simp [put, get?, h]
  | cons e rest ih =>
    obtain ⟨k, v⟩ := e
    by_cases hk : k = key
    · subst hk
      by_cases ho : k = other <;> simp [put, get?, ho]
    · by_cases ho : k = other
      · subst ho
        simp [put, get?, hk, Ne.symm hk]
      · simp [put, get?, hk, ho, ih]

theorem get?_erase (t : Table α) (key other : Text) :
    (t.erase key).get? other = if key = other then none else t.get? other := by
  induction t with
  | nil => simp [erase, get?]
  | cons e rest ih =>
    obtain ⟨k, v⟩ := e
    simp only [erase] at ih
    by_cases hk : k = key
    · subst hk
      by_cases ho : k = other
      · simpa [erase, get?, ho] using ih
      · simpa [erase, get?, ho] using ih
    · by_cases ho : k = other
      · subst ho
        simp [erase, get?, hk, Ne.symm hk]
      · simpa [erase, get?, hk, ho] using ih

theorem mem_of_get? {t : Table α} {key : Text} {value : α} (h : t.get? key = some value) :
    (key, value) ∈ t := by
  induction t with
  | nil => cases h
  | cons e rest ih =>
    obtain ⟨k, v⟩ := e
    by_cases hk : k = key
    · rw [get?, if_pos hk] at h
      rw [hk, Option.some.inj h]
      exact List.mem_cons_self
    · rw [get?, if_neg hk] at h
      exact List.mem_cons_of_mem (k, v) (ih h)

theorem mem_put {t : Table α} {key : Text} {value : α} {e : Text × α} (h : e ∈ t.put key value) :
    e = (key, value) ∨ e ∈ t := by
  induction t with
  | nil => exact Or.inl (List.mem_singleton.mp h)
  | cons d rest ih =>
    obtain ⟨k, v⟩ := d
    by_cases hk : k = key
    · rw [put, if_pos hk] at h
      rcases List.mem_cons.mp h with rfl | h
      · exact Or.inl (by rw [hk])
      · exact Or.inr (List.mem_cons_of_mem (k, v) h)
    · rw [put, if_neg hk] at h
      rcases List.mem_cons.mp h with rfl | h
      · exact Or.inr List.mem_cons_self
      · exact (ih h).imp id (List.mem_cons_of_mem (k, v))

theorem mem_of_mem_foldl_put {entries : List (Text × α)} {t : Table α} {e : Text × α}
    (h : e ∈ entries.foldl (fun t e => t.put e.1 e.2) t) : e ∈ t ∨ e ∈ entries := by
  induction entries generalizing t with
  | nil => exact Or.inl h
  | cons d entries ih =>
    rcases ih h with h | h
    · rcases mem_put h with rfl | h
      · exact Or.inr List.mem_cons_self
      · exact Or.inl h
    · exact Or.inr (List.mem_cons_of_mem d h)

/-- A table filled from entries has no others. -/
theorem mem_of_mem_ofList {entries : List (Text × α)} {e : Text × α} (h : e ∈ ofList entries) :
    e ∈ entries :=
  (mem_of_mem_foldl_put h).resolve_left List.not_mem_nil

/-- Each name has one entry, so that looking it up finds every entry. -/
theorem get?_eq_some_iff_mem {t : Table α} (h : t.keys.Nodup) {key : Text} {value : α} :
    t.get? key = some value ↔ (key, value) ∈ t := by
  refine ⟨mem_of_get?, fun hmem => ?_⟩
  induction t with
  | nil => cases hmem
  | cons e rest ih =>
    obtain ⟨k, v⟩ := e
    obtain ⟨hnot, hrest⟩ := List.nodup_cons.mp h
    rcases List.mem_cons.mp hmem with he | hmem
    · obtain ⟨rfl, rfl⟩ := Prod.mk.inj he
      rw [get?, if_pos rfl]
    · have hk : k ≠ key := by
        rintro rfl
        exact hnot (List.mem_map.mpr ⟨(k, value), hmem, rfl⟩)
      rw [get?, if_neg hk]
      exact ih hrest hmem

theorem mem_keys_iff {t : Table α} {key : Text} :
    key ∈ t.keys ↔ ∃ value, t.get? key = some value := by
  constructor
  · intro h
    induction t with
    | nil => cases h
    | cons e rest ih =>
      obtain ⟨k, v⟩ := e
      by_cases hk : k = key
      · exact ⟨v, by rw [get?, if_pos hk]⟩
      · obtain ⟨value, hv⟩ := ih ((List.mem_cons.mp h).resolve_left (Ne.symm hk))
        exact ⟨value, by rw [get?, if_neg hk, hv]⟩
  · rintro ⟨value, h⟩
    exact List.mem_map_of_mem (mem_of_get? h)

theorem nodup_keys_put {t : Table α} (h : t.keys.Nodup) (key : Text) (value : α) :
    (t.put key value).keys.Nodup := by
  induction t with
  | nil => exact List.nodup_cons.mpr ⟨List.not_mem_nil, List.nodup_nil⟩
  | cons e rest ih =>
    obtain ⟨k, v⟩ := e
    obtain ⟨hnot, hrest⟩ := List.nodup_cons.mp h
    by_cases hk : k = key
    · rw [put, if_pos hk]
      exact List.nodup_cons.mpr ⟨hnot, hrest⟩
    · rw [put, if_neg hk]
      refine List.nodup_cons.mpr ⟨fun hmem => ?_, ih hrest⟩
      obtain ⟨e, he, hek⟩ := List.mem_map.mp hmem
      rcases mem_put he with rfl | he
      · exact hk hek.symm
      · exact hnot (List.mem_map.mpr ⟨e, he, hek⟩)

theorem nodup_keys_erase {t : Table α} (h : t.keys.Nodup) (key : Text) :
    (t.erase key).keys.Nodup :=
  List.Nodup.sublist (List.Sublist.map Prod.fst List.filter_sublist) h

end Table

end LuaIndex
