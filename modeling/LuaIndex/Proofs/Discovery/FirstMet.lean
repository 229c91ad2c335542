import LuaIndex.Proofs.Discovery.Search

namespace LuaIndex.Discovery

/-- The paths are those of a list that are the first in it to have their key, in the order of the list. -/
structure FirstMet {β : Type} (key : Path → β) (found ps : List Path) : Prop where
  sublist : ps.Sublist found
  once : (ps.map key).Nodup
  first : ∀ p ∈ ps, ∃ before after, found = before ++ p :: after ∧ ∀ q ∈ before, key q ≠ key p
  covers : ∀ p ∈ found, ∃ q ∈ ps, key q = key p

/-- Keys that tell the same paths of the list apart take the same of them. -/
theorem FirstMet.congr {β γ : Type} {key : Path → β} {key' : Path → γ} {found ps : List Path}
    (h : FirstMet key found ps)
    (hsame : ∀ p ∈ found, ∀ q ∈ found, key p = key q ↔ key' p = key' q) :
    FirstMet key' found ps := by
  have hfound := fun p (hp : p ∈ ps) => h.sublist.subset hp
  constructor
  · exact h.sublist
  · rw [List.Nodup, List.pairwise_map]
    refine (List.pairwise_map.mp h.once).imp_of_mem fun {p q} hp hq hne he => hne ?_
    exact (hsame p (hfound p hp) q (hfound q hq)).mpr he
  · intro p hp
    obtain ⟨before, after, hsplit, hbefore⟩ := h.first p hp
    refine ⟨before, after, hsplit, fun q hq he => hbefore q hq ?_⟩
    exact (hsame q (by rw [hsplit]; exact List.mem_append_left _ hq) p (hfound p hp)).mpr he
  · intro p hp
    obtain ⟨q, hq, he⟩ := h.covers p hp
    exact ⟨q, hq, (hsame q (hfound q hq) p hp).mp he⟩

variable {t : FileTree} {suffixes : List Text}

/-- The absolute path by which what was met is remembered. -/
def seenAs (t : FileTree) (p : Path) : Path :=
  ⟨1, t.placeOf p⟩

theorem seenAs_eq_iff {p q : Path} : seenAs t p = seenAs t q ↔ t.placeOf p = t.placeOf q :=
  ⟨congrArg Path.names, fun h => by rw [seenAs, h]; rfl⟩

open findAll

theorem pick_cons_of_mem {seen : List Path} {p : Path} (h : seenAs t p ∈ seen) (ps : List Path) :
    pick t seen (p :: ps) = pick t seen ps :=
  if_pos h

theorem pick_cons_of_not_mem {seen : List Path} {p : Path} (h : seenAs t p ∉ seen) (ps : List Path) :
    pick t seen (p :: ps) =
      ((pick t (seenAs t p :: seen) ps).1, p :: (pick t (seenAs t p :: seen) ps).2) :=
  if_neg h

/-- Picking goes on with what was seen before. -/
theorem pick_append (seen ps qs : List Path) :
    pick t seen (ps ++ qs) =
      ((pick t (pick t seen ps).1 qs).1, (pick t seen ps).2 ++ (pick t (pick t seen ps).1 qs).2) := by
  induction ps generalizing seen with
  | nil => rfl
  | cons p ps ih =>
    rw [List.cons_append]
    by_cases h : seenAs t p ∈ seen
    · rw [pick_cons_of_mem h, pick_cons_of_mem h, ih]
    · rw [pick_cons_of_not_mem h, pick_cons_of_not_mem h, ih]
      rfl

theorem mem_pick_seen {seen ps : List Path} {place : Path} :
    place ∈ (pick t seen ps).1 ↔ place ∈ seen ∨ ∃ p ∈ ps, seenAs t p = place := by
  induction ps generalizing seen with
  | nil => simp [pick]
  | cons p ps ih =>
    by_cases h : seenAs t p ∈ seen
    · rw [pick_cons_of_mem h, ih]
      constructor
      · intro hplace
        rcases hplace with hseen | ⟨q, hq, he⟩
        · exact Or.inl hseen
        · exact Or.inr ⟨q, List.mem_cons_of_mem p hq, he⟩
      · intro hplace
        rcases hplace with hseen | ⟨q, hq, rfl⟩
        · exact Or.inl hseen
        · rcases List.mem_cons.mp hq with rfl | hq
          · exact Or.inl h
          · exact Or.inr ⟨q, hq, rfl⟩
    · rw [pick_cons_of_not_mem h, ih, List.mem_cons, List.exists_mem_cons_iff]
      tauto

theorem pick_eq_of_seen {seen ps : List Path} (h : ∀ p ∈ ps, seenAs t p ∈ seen) :
    pick t seen ps = (seen, []) := by
  induction ps with
  | nil => rfl
  | cons p ps ih =>
    rw [List.forall_mem_cons] at h
    rw [pick_cons_of_mem h.1, ih h.2]

theorem not_mem_seen_of_mem_pick {seen ps : List Path} {p : Path} (h : p ∈ (pick t seen ps).2) :
    seenAs t p ∉ seen := by
  induction ps generalizing seen with
  | nil => cases h
  | cons q ps ih =>
    by_cases hq : seenAs t q ∈ seen
    · rw [pick_cons_of_mem hq] at h
      exact ih h
    · rw [pick_cons_of_not_mem hq] at h
      rcases List.mem_cons.mp h with rfl | h
      · exact hq
      · exact fun hp => ih h (List.mem_cons_of_mem _ hp)

theorem pick_sublist (seen ps : List Path) : (pick t seen ps).2.Sublist ps := by
  induction ps generalizing seen with
  | nil => exact List.Sublist.refl []
  | cons p ps ih =>
    by_cases h : seenAs t p ∈ seen
    · rw [pick_cons_of_mem h]
      exact (ih seen).cons p
    · rw [pick_cons_of_not_mem h]
      exact (ih _).cons_cons p

theorem pick_once (seen ps : List Path) : ((pick t seen ps).2.map (seenAs t)).Nodup := by
  induction ps generalizing seen with
  | nil => exact List.nodup_nil
  | cons p ps ih =>
    by_cases h : seenAs t p ∈ seen
    · rw [pick_cons_of_mem h]
      exact ih seen
    · rw [pick_cons_of_not_mem h, List.map_cons, List.nodup_cons]
      refine ⟨fun hmem => ?_, ih _⟩
      obtain ⟨q, hq, he⟩ := List.mem_map.mp hmem
      apply not_mem_seen_of_mem_pick hq
      rw [he]
      exact List.mem_cons_self

theorem pick_first {seen ps : List Path} {p : Path} (h : p ∈ (pick t seen ps).2) :
    ∃ before after, ps = before ++ p :: after ∧ ∀ q ∈ before, seenAs t q ≠ seenAs t p := by
  induction ps generalizing seen with
  | nil => cases h
  | cons q ps ih =>
    have hnew := not_mem_seen_of_mem_pick h
    by_cases hq : seenAs t q ∈ seen
    · rw [pick_cons_of_mem hq] at h
      obtain ⟨before, after, rfl, hbefore⟩ := ih h
      refine ⟨q :: before, after, rfl, List.forall_mem_cons.mpr ⟨?_, hbefore⟩⟩
      intro he
      exact hnew (he ▸ hq)
    · rw [pick_cons_of_not_mem hq] at h
      rcases List.mem_cons.mp h with rfl | h
      · exact ⟨[], ps, rfl, by simp⟩
      · obtain ⟨before, after, rfl, hbefore⟩ := ih h
        refine ⟨q :: before, after, rfl, List.forall_mem_cons.mpr ⟨?_, hbefore⟩⟩
        intro he
        apply not_mem_seen_of_mem_pick h
        rw [he]
        exact List.mem_cons_self

theorem pick_covers (seen : List Path) {ps : List Path} {p : Path} (h : p ∈ ps) :
    seenAs t p ∈ seen ∨ ∃ q ∈ (pick t seen ps).2, seenAs t q = seenAs t p := by
  induction ps generalizing seen with
  | nil => cases h
  | cons q ps ih =>
    by_cases hq : seenAs t q ∈ seen
    · rw [pick_cons_of_mem hq]
      rcases List.mem_cons.mp h with rfl | h
      · exact Or.inl hq
      · exact ih seen h
    · rw [pick_cons_of_not_mem hq, List.exists_mem_cons_iff]
      rcases List.mem_cons.mp h with rfl | h
      · exact Or.inr (Or.inl rfl)
      · rcases ih (seenAs t q :: seen) h with hseen | hlater
        · rcases List.mem_cons.mp hseen with he | hseen
          · exact Or.inr (Or.inl he.symm)
          · exact Or.inl hseen
        · exact Or.inr (Or.inr hlater)

/-- Of what is found, what is picked is met first. -/
theorem firstMet_pick (t : FileTree) (found : List Path) :
    FirstMet (seenAs t) found (pick t [] found).2 where
  sublist := pick_sublist [] found
  once := pick_once [] found
  first := fun _ hp => pick_first hp
  covers := fun _ hp => (pick_covers [] hp).resolve_left List.not_mem_nil

/-- Several searches succeed if each of them does, and pick from what they list together. -/
theorem findAll_eq_ok_iff {seen directories ps : List Path} :
    (findAll t suffixes seen directories).2 = .ok ps ↔
      ∃ lists : List (List Path),
        directories.map (fun directory => (find t suffixes directory).2) = lists.map .ok ∧
          ps = (pick t seen lists.flatten).2 := by
  induction directories generalizing seen ps with
  | nil =>
    constructor
    · intro h
      exact ⟨[], rfl, (Except.ok.inj h).symm⟩
    · intro h
      obtain ⟨lists, hlists, rfl⟩ := h
      rw [List.map_eq_nil_iff.mp hlists.symm]
      rfl
  | cons directory rest ih =>
    cases hf : find t suffixes directory with
    | mk notices found =>
      cases found with
      | error e =>
        refine iff_of_false (by simp [findAll, hf]) fun h => ?_
        obtain ⟨lists, hlists, -⟩ := h
        cases lists with
        | nil => cases hlists
        | cons found lists =>
          rw [List.map_cons, List.map_cons, hf] at hlists
          cases (List.cons.inj hlists).1
      | ok found =>
        have hstep : (findAll t suffixes seen (directory :: rest)).2 =
            (findAll t suffixes (pick t seen found).1 rest).2.map ((pick t seen found).2 ++ ·) := by
          simp only [findAll, hf]
          split <;> rename_i hrest <;> rw [hrest] <;> rfl
        rw [hstep]
        constructor
        · intro h
          cases hrest : (findAll t suffixes (pick t seen found).1 rest).2 with
          | error e =>
            rw [hrest] at h
            cases h
          | ok qs =>
            rw [hrest] at h
            obtain ⟨lists, hlists, rfl⟩ := ih.mp hrest
            refine ⟨found :: lists, by rw [List.map_cons, List.map_cons, hf, hlists], ?_⟩
            rw [List.flatten_cons, pick_append]
            exact (Except.ok.inj h).symm
        · intro h
          obtain ⟨lists, hlists, rfl⟩ := h
          cases lists with
          | nil => cases hlists
          | cons found' lists =>
            rw [List.map_cons, List.map_cons, hf] at hlists
            obtain ⟨hfirst, hlater⟩ := List.cons.inj hlists
            obtain rfl := Except.ok.inj hfirst
            rw [ih.mpr ⟨lists, hlater, rfl⟩, List.flatten_cons, pick_append]
            rfl

/-- Searching once more below a directory that was searched finds nothing new. -/
theorem findAll_concat_of_mem {directories ps : List Path} {directory : Path}
    (h : (findAll t suffixes [] directories).2 = .ok ps) (hmem : directory ∈ directories) :
    (findAll t suffixes [] (directories ++ [directory])).2 = .ok ps := by
  obtain ⟨lists, hlists, rfl⟩ := findAll_eq_ok_iff.mp h
  have hsearched : (find t suffixes directory).2 ∈ lists.map .ok := by
    rw [← hlists]
    exact List.mem_map_of_mem hmem
  obtain ⟨again, hagain, hfind⟩ := List.mem_map.mp hsearched
  refine findAll_eq_ok_iff.mpr ⟨lists ++ [again], ?_, ?_⟩
  · rw [List.map_append, List.map_append, hlists, List.map_singleton, List.map_singleton, hfind]
  · have hseen : ∀ p ∈ again, seenAs t p ∈ (pick t [] lists.flatten).1 := fun p hp =>
      mem_pick_seen.mpr (Or.inr ⟨p, List.mem_flatten.mpr ⟨again, hagain, hp⟩, rfl⟩)
    rw [List.flatten_append, List.flatten_singleton, pick_append, pick_eq_of_seen hseen,
      List.append_nil]

end LuaIndex.Discovery
