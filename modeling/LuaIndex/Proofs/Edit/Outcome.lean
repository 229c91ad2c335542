import LuaIndex.Proofs.Edit.Offsets
import Mathlib.Data.List.Nodup

namespace LuaIndex

namespace Splice

theorem le_iff {a b : Splice} :
    le a b = true ↔ a.start < b.start ∨ a.start = b.start ∧ a.stop ≤ b.stop := by
  simp [le]

theorem le_trans (a b c : Splice) (hab : le a b = true) (hbc : le b c = true) : le a c = true := by
  rw [le_iff] at *
  omega

theorem le_total (a b : Splice) : (le a b || le b a) = true := by
  rw [Bool.or_eq_true, le_iff, le_iff]
  omega

/-- The character at an offset is replaced. -/
def covers (s : Splice) (k : Int) : Bool :=
  s.start ≤ k && k < s.stop

/-- An insertion strictly inside of what another splice replaces. -/
def Inside (a b : Splice) : Prop :=
  a.start = a.stop ∧ b.start < a.start ∧ a.start < b.stop

/-- Two splices claim the same text: there is a character that both replace, or one of them is an insertion
strictly inside of what the other replaces. -/
def Clash (a b : Splice) : Prop :=
  (∃ k, a.covers k = true ∧ b.covers k = true) ∨ a.Inside b ∨ b.Inside a

/-- Two of the splices claim the same text. -/
def Clashing (ss : List Splice) : Prop :=
  ∃ (i j : Nat) (a b : Splice), i < j ∧ ss[i]? = some a ∧ ss[j]? = some b ∧ a.Clash b

theorem covers_iff {s : Splice} {k : Int} : s.covers k = true ↔ s.start ≤ k ∧ k < s.stop := by
  simp [covers]

theorem exists_covers_iff {a b : Splice} :
    (∃ k, a.covers k = true ∧ b.covers k = true) ↔ max a.start b.start < min a.stop b.stop := by
  simp only [covers_iff]
  constructor
  · intro ⟨k, ha, hb⟩
    omega
  · intro h
    exact ⟨max a.start b.start, by omega⟩

instance (a b : Splice) : Decidable (a.Inside b) :=
  inferInstanceAs (Decidable (_ ∧ _ ∧ _))

instance (a b : Splice) : Decidable (a.Clash b) :=
  decidable_of_iff (max a.start b.start < min a.stop b.stop ∨ a.Inside b ∨ b.Inside a)
    (or_congr_left exists_covers_iff.symm)

theorem Clash.symm {a b : Splice} (h : a.Clash b) : b.Clash a := by
  rcases h with ⟨k, ha, hb⟩ | h | h
  · exact Or.inl ⟨k, hb, ha⟩
  · exact Or.inr (Or.inr h)
  · exact Or.inr (Or.inl h)

/-- Splices do not clash exactly if one of them ends before the other starts, or where it starts. -/
theorem clash_iff {a b : Splice} (ha : a.start ≤ a.stop) (hb : b.start ≤ b.stop) :
    a.Clash b ↔ b.start < a.stop ∧ a.start < b.stop := by
  rw [Clash, exists_covers_iff, Inside, Inside]
  omega

theorem clashing_iff {ss : List Splice} :
    Clashing ss ↔ ¬ ss.Pairwise fun a b => ¬ a.Clash b := by
  constructor
  · intro ⟨i, j, a, b, hlt, ha, hb, hclash⟩ hp
    obtain ⟨hi, rfl⟩ := List.getElem?_eq_some_iff.mp ha
    obtain ⟨hj, rfl⟩ := List.getElem?_eq_some_iff.mp hb
    exact List.pairwise_iff_getElem.mp hp i j hi hj hlt hclash
  · intro hp
    by_contra hno
    apply hp
    rw [List.pairwise_iff_getElem]
    intro i j hi hj hlt hclash
    apply hno
    exact ⟨i, j, ss[i], ss[j], hlt, List.getElem?_eq_getElem hi, List.getElem?_eq_getElem hj, hclash⟩

instance (ss : List Splice) : Decidable (Clashing ss) :=
  decidable_of_iff (¬ ss.Pairwise fun a b => ¬ a.Clash b) clashing_iff.symm

variable {limit : Nat} {ss : List Splice}

theorem pairwise_mergeSort_le (ss : List Splice) :
    (ss.mergeSort le).Pairwise fun a b => le a b = true :=
  List.pairwise_mergeSort le_trans le_total ss

/-- In sorted order it is enough to look at where the splice before ends. -/
theorem follow_mergeSort_iff (hw : ∀ s ∈ ss, s.Within limit) :
    Follow limit 0 (ss.mergeSort le) ↔ ss.Pairwise fun a b => ¬ a.Clash b := by
  have hsorted : ∀ s ∈ ss.mergeSort le, s.Within limit := by
    intro s hs
    exact hw s (List.mem_mergeSort.mp hs)
  have hperm : (ss.mergeSort le).Pairwise (fun a b => ¬ a.Clash b) ↔
      ss.Pairwise fun a b => ¬ a.Clash b := by
    apply List.Perm.pairwise_iff _ (List.mergeSort_perm ss le)
    intro a b hab hba
    exact hab hba.symm
  rw [← hperm]
  constructor
  · intro h
    apply h.pairwise_stop_le.imp_of_mem
    intro a b ha hb hab hclash
    have hmeet := (clash_iff (hsorted a ha).ordered (hsorted b hb).ordered).mp hclash
    omega
  · intro h
    have hboth := (pairwise_mergeSort_le ss).and h
    apply follow_of_pairwise (Int.natCast_nonneg limit)
    · intro s hs
      exact ⟨(hsorted s hs).start, (hsorted s hs).ordered, (hsorted s hs).stop⟩
    · apply hboth.imp_of_mem
      intro a b ha hb hab
      have hle := le_iff.mp hab.1
      have hoa := (hsorted a ha).ordered
      have hob := (hsorted b hb).ordered
      have hapart := mt (clash_iff hoa hob).mpr hab.2
      omega

/-- A pass that cannot be finished ends with a splice that starts before the one before it ends. -/
theorem exists_weave_error {source : Text} {cursor : Int} (hc : cursor ≤ source.length)
    (hw : ∀ s ∈ ss, s.Within source.length) (h : ¬ Follow source.length cursor ss) :
    ∃ k, weave source cursor ss = .error (.overlapOffset k) := by
  induction ss generalizing cursor with
  | nil => exact absurd hc h
  | cons s ss ih =>
    have hs := hw s List.mem_cons_self
    by_cases hlt : s.start < cursor
    · exact ⟨s.start, by simp only [weave, hlt, if_true]⟩
    · have hrest : ¬ Follow source.length s.stop ss := by
        intro hf
        exact h ⟨by omega, hs.ordered, hf⟩
      obtain ⟨k, hk⟩ := ih hs.stop (fun x hx => hw x (List.mem_cons_of_mem s hx)) hrest
      exact ⟨k, by simp only [weave, hlt, if_false, hk]⟩

def insertsAt (s : Splice) (k : Int) : Bool :=
  s.start == k && s.stop == k

def replacesFrom (s : Splice) (k : Int) : Bool :=
  s.start == k && k < s.stop

/-- What is inserted at an offset, in the order of the list. -/
def inserted (ss : List Splice) (k : Int) : Text :=
  (ss.filter (·.insertsAt k)).flatMap Splice.text

/-- What is put in the place of the text that starts at an offset. -/
def replacement (ss : List Splice) (k : Int) : Text :=
  (ss.filter (·.replacesFrom k)).flatMap Splice.text

/-- The rest of a text, `k` characters in, after all splices. At each offset comes what is inserted there,
then what is put in the place of the text that starts there, then the character itself unless a splice
covers it. -/
def outcome (ss : List Splice) (k : Nat) : Text → Text
  | [] => inserted ss k
  | c :: rest =>
    inserted ss k ++ replacement ss k ++ (if ss.any (·.covers k) then [] else [c]) ++
      outcome ss (k + 1) rest

theorem inserted_cons (s : Splice) (ss : List Splice) (k : Int) :
    inserted (s :: ss) k = (if s.insertsAt k then s.text else []) ++ inserted ss k := by
  simp only [inserted, List.filter_cons]
  split <;> simp

theorem replacement_cons (s : Splice) (ss : List Splice) (k : Int) :
    replacement (s :: ss) k = (if s.replacesFrom k then s.text else []) ++ replacement ss k := by
  simp only [replacement, List.filter_cons]
  split <;> simp

theorem insertsAt_iff {s : Splice} {k : Int} : s.insertsAt k = true ↔ s.start = k ∧ s.stop = k := by
  simp [insertsAt]

theorem replacesFrom_iff {s : Splice} {k : Int} :
    s.replacesFrom k = true ↔ s.start = k ∧ k < s.stop := by
  simp [replacesFrom]

/-- A splice does nothing at an offset before it or after it. -/
theorem idle {s : Splice} {k : Int} (h : k < s.start ∨ s.start < k ∧ s.stop ≤ k) :
    s.insertsAt k = false ∧ s.replacesFrom k = false ∧ s.covers k = false := by
  rw [← Bool.not_eq_true, ← Bool.not_eq_true, ← Bool.not_eq_true, insertsAt_iff, replacesFrom_iff,
    covers_iff]
  omega

theorem nothing_before {k : Int} (h : ∀ s ∈ ss, k < s.start) :
    inserted ss k = [] ∧ replacement ss k = [] ∧ ss.any (·.covers k) = false := by
  induction ss with
  | nil => exact ⟨rfl, rfl, rfl⟩
  | cons s ss ih =>
    obtain ⟨hi, hr, hc⟩ := idle (Or.inl (h s List.mem_cons_self))
    obtain ⟨hin, hre, hcov⟩ := ih fun x hx => h x (List.mem_cons_of_mem s hx)
    simp [inserted_cons, replacement_cons, hi, hr, hc, hin, hre, hcov]

/-- Text before all splices stays. -/
theorem outcome_before (w t : Text) (k : Nat) (h : ∀ s ∈ ss, ((k + w.length : Nat) : Int) ≤ s.start) :
    outcome ss k (w ++ t) = w ++ outcome ss (k + w.length) t := by
  induction w generalizing k with
  | nil => rfl
  | cons c w ih =>
    rw [List.length_cons, ← Nat.add_assoc, Nat.add_right_comm] at h ⊢
    have hquiet : ∀ s ∈ ss, (k : Int) < s.start := by
      intro s hs
      have hle := h s hs
      omega
    obtain ⟨hin, hre, hcov⟩ := nothing_before hquiet
    rw [List.cons_append, outcome, hin, hre, hcov, ih (k + 1) h]
    rfl

/-- A splice that lies before the rest of the text does nothing to it. -/
theorem outcome_after (s : Splice) (t : Text) (k : Nat) (hstart : s.start < k) (hstop : s.stop ≤ k) :
    outcome (s :: ss) k t = outcome ss k t := by
  induction t generalizing k with
  | nil =>
    obtain ⟨hi, -, -⟩ := idle (Or.inr ⟨hstart, hstop⟩)
    simp [outcome, inserted_cons, hi]
  | cons c t ih =>
    obtain ⟨hi, hr, hc⟩ := idle (Or.inr ⟨hstart, hstop⟩)
    have hrest := ih (k + 1) (by omega) (by omega)
    simp [outcome, inserted_cons, replacement_cons, hi, hr, hc, hrest]

/-- The rest of what a splice replaces goes away. -/
theorem outcome_inside (s : Splice) (w t : Text) (k : Nat) (hstart : s.start < k)
    (hstop : s.stop = ((k + w.length : Nat) : Int)) (h : ∀ x ∈ ss, s.stop ≤ x.start) :
    outcome (s :: ss) k (w ++ t) = outcome ss (k + w.length) t := by
  induction w generalizing k with
  | nil =>
    rw [List.length_nil, Nat.add_zero] at hstop
    exact outcome_after s t k hstart (by omega)
  | cons c w ih =>
    rw [List.length_cons, ← Nat.add_assoc, Nat.add_right_comm] at hstop ⊢
    have hquiet : ∀ x ∈ ss, (k : Int) < x.start := by
      intro x hx
      have hle := h x hx
      omega
    obtain ⟨hin, hre, -⟩ := nothing_before hquiet
    have hi : s.insertsAt k = false := by
      rw [← Bool.not_eq_true, insertsAt_iff]
      omega
    have hr : s.replacesFrom k = false := by
      rw [← Bool.not_eq_true, replacesFrom_iff]
      omega
    have hc : s.covers k = true := covers_iff.mpr (by omega)
    have hrest := ih (k + 1) (by omega) hstop
    simp [outcome, inserted_cons, replacement_cons, hi, hr, hc, hin, hre, hrest]

/-- The first splice puts its text in the place of what it replaces. -/
theorem outcome_at (s : Splice) (w t : Text) (k : Nat) (hstart : s.start = k)
    (hstop : s.stop = ((k + w.length : Nat) : Int)) (h : ∀ x ∈ ss, s.stop ≤ x.start) :
    outcome (s :: ss) k (w ++ t) = s.text ++ outcome ss (k + w.length) t := by
  cases w with
  | nil =>
    -- an insertion, before what else is done at this offset
    rw [List.length_nil, Nat.add_zero] at hstop ⊢
    have hi : s.insertsAt k = true := insertsAt_iff.mpr ⟨hstart, hstop⟩
    have hr : s.replacesFrom k = false := by
      rw [← Bool.not_eq_true, replacesFrom_iff]
      omega
    have hc : s.covers k = false := by
      rw [← Bool.not_eq_true, covers_iff]
      omega
    cases t with
    | nil => simp [outcome, inserted_cons, hi]
    | cons c t =>
      have hrest : outcome (s :: ss) (k + 1) t = outcome ss (k + 1) t :=
        outcome_after s t (k + 1) (by omega) (by omega)
      simp [outcome, inserted_cons, replacement_cons, hi, hr, hc, hrest]
  | cons c w =>
    rw [List.length_cons, ← Nat.add_assoc, Nat.add_right_comm] at hstop ⊢
    have hquiet : ∀ x ∈ ss, (k : Int) < x.start := by
      intro x hx
      have hle := h x hx
      omega
    obtain ⟨hin, hre, -⟩ := nothing_before hquiet
    have hi : s.insertsAt k = false := by
      rw [← Bool.not_eq_true, insertsAt_iff]
      omega
    have hr : s.replacesFrom k = true := replacesFrom_iff.mpr (by omega)
    have hc : s.covers k = true := covers_iff.mpr (by omega)
    have hrest := outcome_inside s w t (k + 1) (by omega) hstop h
    simp [outcome, inserted_cons, replacement_cons, hi, hr, hc, hin, hre, hrest]

theorem outcome_nil (k : Nat) (t : Text) : outcome [] k t = t := by
  have hnone : ∀ s ∈ ([] : List Splice), ((k + t.length : Nat) : Int) ≤ s.start := by simp
  have hall := outcome_before t [] k hnone
  rw [List.append_nil] at hall
  rw [hall]
  exact List.append_nil t

/-- One pass over splices that follow each other does at each offset what they say. -/
theorem weave_eq_outcome {p t : Text} (h : Follow (p ++ t).length p.length ss) :
    weave (p ++ t) p.length ss = .ok (outcome ss p.length t) := by
  induction ss generalizing p t with
  | nil => simp only [weave, Text.dropTo_length, outcome_nil]
  | cons s ss ih =>
    have hs := h.1
    have hl := h.2.1
    have hlimit := h.2.2.cursor_le
    simp only [List.length_append] at hlimit
    -- the text up to the splice, what it replaces, and the rest
    obtain ⟨w, r, rfl, hwlen⟩ := Text.exists_append (t := t) (n := s.start.toNat - p.length) (by omega)
    simp only [List.length_append] at hlimit
    obtain ⟨u, v, rfl, hulen⟩ := Text.exists_append (t := r) (n := s.stop.toNat - s.start.toNat) (by omega)
    have hw : s.start = ((p.length + w.length : Nat) : Int) := by omega
    have hu : s.stop = ((p.length + w.length + u.length : Nat) : Int) := by omega
    have hsource : p ++ (w ++ (u ++ v)) = (p ++ w ++ u) ++ v := by simp
    have hlength : (p ++ w ++ u).length = p.length + w.length + u.length := by
      rw [List.length_append, List.length_append]
    have hfollow := h.2.2
    rw [hu, ← hlength, hsource] at hfollow
    have hrest := ih hfollow
    rw [hlength, ← hsource, ← hu] at hrest
    have hnext : ∀ x ∈ ss, s.stop ≤ x.start := by
      intro x hx
      exact (h.2.2.bounds hx).1
    have hfirst : ∀ x ∈ s :: ss, ((p.length + w.length : Nat) : Int) ≤ x.start := by
      intro x hx
      rcases List.mem_cons.mp hx with rfl | hx
      · omega
      · have hle := hnext x hx
        omega
    have hcut := Text.cut_middle p w (u ++ v)
    rw [← hw] at hcut
    rw [outcome_before w (u ++ v) p.length hfirst, outcome_at s u v _ hw hu hnext]
    simp only [weave, show ¬ s.start < p.length by omega, if_false, hrest, hcut, List.append_assoc]

/-- Sorting does not change the order of splices that are in order already. -/
theorem filter_mergeSort {p : Splice → Bool}
    (h : (ss.filter p).Pairwise fun a b => le a b = true) :
    (ss.mergeSort le).filter p = ss.filter p := by
  have hsub := (List.sublist_mergeSort le_trans le_total h List.filter_sublist).filter p
  simp only [List.filter_filter, Bool.and_self] at hsub
  have hlength := ((List.mergeSort_perm ss le).filter p).length_eq
  exact (hsub.eq_of_length hlength.symm).symm

theorem outcome_congr {ts : List Splice}
    (h : ∀ k : Int, inserted ss k = inserted ts k ∧ replacement ss k = replacement ts k ∧
      ss.any (·.covers k) = ts.any (·.covers k)) (k : Nat) (t : Text) :
    outcome ss k t = outcome ts k t := by
  induction t generalizing k with
  | nil => simp only [outcome, (h k).1]
  | cons c t ih =>
    obtain ⟨hin, hre, hcov⟩ := h k
    simp only [outcome, hin, hre, hcov, ih]

/-- The result does not show that the splices were sorted. -/
theorem outcome_mergeSort (hw : ∀ s ∈ ss, s.Within limit)
    (hp : ss.Pairwise fun a b => ¬ a.Clash b) (k : Nat) (t : Text) :
    outcome (ss.mergeSort le) k t = outcome ss k t := by
  apply outcome_congr
  intro k
  refine ⟨?_, ?_, ?_⟩
  · -- insertions at one offset are sorted already
    rw [inserted, inserted, filter_mergeSort]
    apply List.pairwise_of_forall_mem_list
    intro a ha b hb
    have hka := insertsAt_iff.mp (List.mem_filter.mp ha).2
    have hkb := insertsAt_iff.mp (List.mem_filter.mp hb).2
    rw [le_iff]
    omega
  · -- there is at most one replacement that starts at an offset
    rw [replacement, replacement, filter_mergeSort]
    apply (hp.filter (·.replacesFrom k)).imp_of_mem
    intro a b ha hb hapart
    obtain ⟨hma, hka⟩ := List.mem_filter.mp ha
    obtain ⟨hmb, hkb⟩ := List.mem_filter.mp hb
    rw [replacesFrom_iff] at hka hkb
    rw [clash_iff (hw a hma).ordered (hw b hmb).ordered] at hapart
    omega
  · exact (List.mergeSort_perm ss le).any_eq

/-- From where to where a splice goes. -/
def extent (s : Splice) : Int × Int :=
  (s.start, s.stop)

/-- The text with the splices put in one at a time, that of the last range first. -/
def oneByOne (source : Text) (ss : List Splice) : Text :=
  (ss.mergeSort fun a b => le b a).foldl (fun t s => s.put t) source

theorem eq_of_le_of_le (hd : (ss.map extent).Nodup) {a b : Splice} (ha : a ∈ ss) (hb : b ∈ ss)
    (hab : le a b = true) (hba : le b a = true) : a = b := by
  apply List.inj_on_of_nodup_map hd ha hb
  rw [le_iff] at hab hba
  rw [extent, extent, Prod.mk.injEq]
  omega

/-- Splices of different ranges have one sorted order, whatever order they are given in. -/
theorem mergeSort_eq_of_perm {ts : List Splice} (hd : (ss.map extent).Nodup) (hp : ts.Perm ss) :
    ts.mergeSort le = ss.mergeSort le := by
  have hperm : (ts.mergeSort le).Perm (ss.mergeSort le) :=
    (List.mergeSort_perm ts le).trans (hp.trans (List.mergeSort_perm ss le).symm)
  apply hperm.eq_of_pairwise _ (pairwise_mergeSort_le ts) (pairwise_mergeSort_le ss)
  intro a b ha hb hab hba
  have hma : a ∈ ss := hp.mem_iff.mp (List.mem_mergeSort.mp ha)
  exact eq_of_le_of_le hd hma (List.mem_mergeSort.mp hb) hab hba

theorem mergeSort_descending (hd : (ss.map extent).Nodup) :
    (ss.mergeSort fun a b => le b a) = (ss.mergeSort le).reverse := by
  have hdown : (ss.mergeSort fun a b => le b a).Pairwise fun a b => le b a = true :=
    List.pairwise_mergeSort (fun a b c hab hbc => le_trans c b a hbc hab)
      (fun a b => le_total b a) ss
  have hup : (ss.mergeSort le).reverse.Pairwise fun a b => le b a = true :=
    List.pairwise_reverse.mpr (pairwise_mergeSort_le ss)
  have hperm : (ss.mergeSort fun a b => le b a).Perm (ss.mergeSort le).reverse :=
    (List.mergeSort_perm ss _).trans
      ((List.mergeSort_perm ss le).symm.trans (List.reverse_perm _).symm)
  apply hperm.eq_of_pairwise _ hdown hup
  intro a b ha hb hab hba
  have hmb : b ∈ ss := List.mem_mergeSort.mp (List.mem_reverse.mp hb)
  exact eq_of_le_of_le hd (List.mem_mergeSort.mp ha) hmb hba hab

theorem oneByOne_eq_foldr_put (hd : (ss.map extent).Nodup) (source : Text) :
    oneByOne source ss = (ss.mergeSort le).foldr put source := by
  rw [oneByOne, mergeSort_descending hd, List.foldl_reverse]

end Splice

namespace Edit

variable {source : Text} {es : List Edit} {ss : List Splice}

theorem applyAll_of_resolveAll (h : resolveAll source es = .ok ss) :
    applyAll source es = Splice.weave source 0 (ss.mergeSort Splice.le) := by
  simp only [applyAll, h]

/-- Edits of which no two claim the same text are applied. -/
theorem applyAll_of_apart (hr : resolveAll source es = .ok ss)
    (hw : ∀ s ∈ ss, s.Within source.length) (hp : ss.Pairwise fun a b => ¬ a.Clash b) :
    applyAll source es = .ok (Splice.outcome ss 0 source) := by
  have hfollow := (Splice.follow_mergeSort_iff hw).mpr hp
  have hweave := Splice.weave_eq_outcome (p := []) (t := source) hfollow
  rw [applyAll_of_resolveAll hr, ← Splice.outcome_mergeSort hw hp]
  exact hweave

/-- Edits of which two claim the same text are refused. -/
theorem exists_applyAll_error (hr : resolveAll source es = .ok ss)
    (hw : ∀ s ∈ ss, s.Within source.length) (hp : ¬ ss.Pairwise fun a b => ¬ a.Clash b) :
    ∃ k, applyAll source es = .error (.overlapOffset k) := by
  rw [applyAll_of_resolveAll hr]
  apply Splice.exists_weave_error (Int.natCast_nonneg _)
  · intro s hs
    exact hw s (List.mem_mergeSort.mp hs)
  · intro hfollow
    exact hp ((Splice.follow_mergeSort_iff hw).mp hfollow)

/-- Edits are refused exactly if two of them claim the same text by offsets. All others are applied, those
that touch and several insertions at one offset among them, and such insertions come in the order of the
list. -/
theorem applyAll_error_iff_clashing (source : Text) {es : List Edit}
    (h : ∀ e ∈ es, e.range.Proper) :
    ∃ ss, resolveAll source es = .ok ss ∧
      ((∃ k, applyAll source es = .error (.overlapOffset k)) ↔ Splice.Clashing ss) ∧
      (¬ Splice.Clashing ss → applyAll source es = .ok (Splice.outcome ss 0 source)) := by
  obtain ⟨ss, hr, hw⟩ := exists_resolveAll source h
  refine ⟨ss, hr, ⟨?_, ?_⟩, ?_⟩
  · intro ⟨k, hk⟩
    rw [Splice.clashing_iff]
    intro hp
    rw [applyAll_of_apart hr hw hp] at hk
    cases hk
  · intro hclash
    exact exists_applyAll_error hr hw (Splice.clashing_iff.mp hclash)
  · intro hno
    rw [Splice.clashing_iff, not_not] at hno
    exact applyAll_of_apart hr hw hno

/-- Two replacements that touch with two insertions between them, and a range below the text. -/
def touchingEdits : List Edit :=
  [⟨.onLine 0 3 6, "Y".toList⟩, ⟨.onLine 0 3 3, "1".toList⟩, ⟨⟨⟨5, 0⟩, ⟨7, 2⟩⟩, "!".toList⟩,
    ⟨.onLine 0 0 3, "X".toList⟩, ⟨.onLine 0 3 3, "2".toList⟩]

theorem touchingEdits_applied :
    (∀ e ∈ touchingEdits, e.range.Proper) ∧
      applyAll "abcdef".toList touchingEdits = .ok "X12Y!".toList := by
  have hproper : ∀ e ∈ touchingEdits, e.range.Proper := by decide
  have hresolved : resolveAll "abcdef".toList touchingEdits =
      .ok [⟨3, 6, "Y".toList⟩, ⟨3, 3, "1".toList⟩, ⟨6, 6, "!".toList⟩, ⟨0, 3, "X".toList⟩,
        ⟨3, 3, "2".toList⟩] := by decide
  obtain ⟨ss, hss, -, happly⟩ := applyAll_error_iff_clashing "abcdef".toList hproper
  obtain rfl := Except.ok.inj (hss.symm.trans hresolved)
  exact ⟨hproper, happly (by decide)⟩

/-- If no two ranges are the same by offsets, the order of the edits does not matter. When they are applied,
the text is that of putting them in one at a time from the last range to the first, and every character that
no range covers is kept in its place. -/
theorem applyAll_eq_oneByOne (source : Text) {es : List Edit} (h : ∀ e ∈ es, e.range.Proper) :
    ∃ ss, resolveAll source es = .ok ss ∧ ((ss.map Splice.extent).Nodup →
      (∀ fs, fs.Perm es → applyAll source fs = applyAll source es) ∧
      ∀ t, applyAll source es = .ok t →
        t = Splice.oneByOne source ss ∧ t = Splice.outcome ss 0 source) := by
  obtain ⟨ss, hr, hw⟩ := exists_resolveAll source h
  refine ⟨ss, hr, ?_⟩
  intro hd
  constructor
  · intro fs hperm
    obtain ⟨ts, hts, htperm⟩ := resolveAll_perm hperm hr
    rw [applyAll_of_resolveAll hts, applyAll_of_resolveAll hr, Splice.mergeSort_eq_of_perm hd htperm]
  · intro t ht
    have hp : ss.Pairwise fun a b => ¬ a.Clash b := by
      by_contra hclash
      obtain ⟨k, hk⟩ := exists_applyAll_error hr hw hclash
      rw [ht] at hk
      cases hk
    have hfollow := (Splice.follow_mergeSort_iff hw).mpr hp
    have hput := Splice.weave_eq_foldr_put hfollow (Int.le_refl 0)
    rw [← applyAll_of_resolveAll hr, ht] at hput
    have hout := applyAll_of_apart hr hw hp
    rw [ht] at hout
    constructor
    · rw [Splice.oneByOne_eq_foldr_put hd]
      exact Except.ok.inj hput
    · exact Except.ok.inj hout

/-- A replacement over a line break with an insertion where it starts, and the rest of the text taken away. -/
def overLines : List Edit :=
  [⟨⟨⟨1, 1⟩, ⟨9, 0⟩⟩, []⟩, ⟨⟨⟨0, 1⟩, ⟨1, 1⟩⟩, "X".toList⟩, ⟨.onLine 0 1 1, "+".toList⟩]

theorem overLines_in_any_order :
    (∀ e ∈ overLines, e.range.Proper) ∧
      ∀ fs, fs.Perm overLines → applyAll "ab\ncd".toList fs = .ok "a+X".toList := by
  have hproper : ∀ e ∈ overLines, e.range.Proper := by decide
  have hresolved : resolveAll "ab\ncd".toList overLines =
      .ok [⟨4, 5, []⟩, ⟨1, 4, "X".toList⟩, ⟨1, 1, "+".toList⟩] := by decide
  obtain ⟨ss, hss, hany⟩ := applyAll_eq_oneByOne "ab\ncd".toList hproper
  obtain rfl := Except.ok.inj (hss.symm.trans hresolved)
  obtain ⟨ts, hts, hwithin⟩ := exists_resolveAll "ab\ncd".toList hproper
  obtain rfl := Except.ok.inj (hts.symm.trans hresolved)
  refine ⟨hproper, ?_⟩
  intro fs hperm
  rw [(hany (by decide)).1 fs hperm]
  exact applyAll_of_apart hss hwithin (by decide)

end Edit

end LuaIndex
