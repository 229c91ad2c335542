import LuaIndex.Proofs.Edit.Building

namespace LuaIndex

/-- Elements that exclude each other are at most one, so that they have only one order. -/
theorem filter_eq_of_perm {α : Type} {p : α → Bool} {xs ys : List α} (hp : xs.Perm ys)
    (h : (ys.filter p).Pairwise fun _ _ => False) : xs.filter p = ys.filter p := by
  have hfilter := hp.filter p
  have hx : (xs.filter p).Pairwise fun _ _ => False :=
    (hfilter.pairwise_iff fun {_ _} hno => hno).mpr h
  exact hfilter.eq_of_pairwise (fun _ _ _ _ hno => hno.elim) hx h

namespace Splice

variable {ss ts : List Splice} {limit : Nat}

theorem length_inserted_of_perm (hp : ts.Perm ss) (k : Int) :
    (inserted ts k).length = (inserted ss k).length := by
  have hfilter := hp.filter fun s => s.insertsAt k
  exact (hfilter.flatMap_right Splice.text).length_eq

/-- At most one splice replaces the text that starts at an offset. -/
theorem replacement_of_perm (hw : ∀ s ∈ ss, s.Within limit)
    (hc : ss.Pairwise fun a b => ¬ a.Clash b) (hp : ts.Perm ss) (k : Int) :
    replacement ts k = replacement ss k := by
  rw [replacement, replacement, filter_eq_of_perm hp]
  apply (hc.filter (·.replacesFrom k)).imp_of_mem
  intro a b ha hb hapart
  obtain ⟨hma, hka⟩ := List.mem_filter.mp ha
  obtain ⟨hmb, hkb⟩ := List.mem_filter.mp hb
  rw [replacesFrom_iff] at hka hkb
  rw [clash_iff (hw a hma).ordered (hw b hmb).ordered] at hapart
  omega

/-- Splices in two orders have the same result exactly if they insert the same at each offset. -/
theorem outcome_eq_iff_of_perm (hw : ∀ s ∈ ss, s.Within limit)
    (hc : ss.Pairwise fun a b => ¬ a.Clash b) (hp : ts.Perm ss) (k : Nat) (t : Text) :
    outcome ts k t = outcome ss k t ↔
      ∀ j : Nat, k ≤ j → j ≤ k + t.length → inserted ts j = inserted ss j := by
  induction t generalizing k with
  | nil =>
    constructor
    · intro h j hlow hhigh
      obtain rfl : k = j := Nat.le_antisymm hlow hhigh
      exact h
    · intro h
      exact h k (Nat.le_refl k) (Nat.le_refl k)
  | cons c t ih =>
    have hcovers : ts.any (·.covers k) = ss.any (·.covers k) := hp.any_eq
    simp only [outcome, replacement_of_perm hw hc hp, hcovers, List.append_assoc]
    constructor
    · intro h j hlow hhigh
      -- what is inserted here is as long in both orders, so the rest is the same as well
      obtain ⟨hhere, hrest⟩ := List.append_inj h (length_inserted_of_perm hp k)
      have hlater := (ih (k + 1)).mp (List.append_cancel_left (List.append_cancel_left hrest))
      rcases Nat.eq_or_lt_of_le hlow with rfl | hlt
      · exact hhere
      · rw [List.length_cons] at hhigh
        exact hlater j hlt (by omega)
    · intro h
      have hlater : outcome ts (k + 1) t = outcome ss (k + 1) t := by
        refine (ih (k + 1)).mpr fun j hlow hhigh => h j (by omega) ?_
        rw [List.length_cons]
        omega
      rw [h k (Nat.le_refl k) (by omega), hlater]

end Splice

namespace Edit

variable {source : Text}

/-- What the edits insert at an offset, in the order of the list. Both ends of such an edit have this
offset, if only because they lie beyond the end of a line. -/
def insertedAt (source : Text) (es : List Edit) (k : Nat) : Text :=
  (es.filter fun e =>
    offset source e.range.start = .ok (k : Int) ∧ offset source e.range.stop = .ok (k : Int)).flatMap
      Edit.text

theorem insertedAt_eq_inserted {es : List Edit} {ss : List Splice}
    (h : resolveAll source es = .ok ss) (k : Nat) :
    insertedAt source es k = Splice.inserted ss k := by
  induction es generalizing ss with
  | nil =>
    obtain rfl := Except.ok.inj h
    rfl
  | cons e es ih =>
    obtain ⟨s, rest, hs, hrest, rfl⟩ := resolveAll_cons_eq_ok_iff.mp h
    obtain ⟨hstart, hstop, htext⟩ := resolve_eq_ok_iff.mp hs
    have hlater := ih hrest
    rw [insertedAt] at hlater
    rw [Splice.inserted_cons, insertedAt, List.filter_cons, hstart, hstop, ← hlater, htext]
    simp only [Except.ok.injEq, Splice.insertsAt_iff, decide_eq_true_eq]
    split <;> rfl

/-- Of edits that do not overlap, at most one inserts at an offset if all points are points of the text. -/
theorem insertedAt_of_perm {es fs : List Edit} (hp : fs.Perm es)
    (hproper : ∀ e ∈ es, e.range.Proper)
    (hin : ∀ e ∈ es, e.range.start.InText source ∧ e.range.stop.InText source)
    (hclear : es.Pairwise fun x y => x.range.overlaps y.range = false) (k : Nat) :
    insertedAt source fs k = insertedAt source es k := by
  rw [insertedAt, insertedAt, filter_eq_of_perm hp]
  apply (hclear.filter _).imp_of_mem
  intro x y hx hy hxy
  obtain ⟨hmx, hkx⟩ := List.mem_filter.mp hx
  obtain ⟨hmy, hky⟩ := List.mem_filter.mp hy
  rw [decide_eq_true_eq] at hkx hky
  have hstart := eq_of_offset_eq (hin x hmx).1 (hin y hmy).1 (hkx.1.trans hky.1.symm)
  have hstop := eq_of_offset_eq (hin x hmx).2 (hin y hmy).2 (hkx.2.trans hky.2.symm)
  have hsame : x.range = y.range := by
    cases hrx : x.range
    cases hry : y.range
    simp only [hrx, hry] at hstart hstop
    rw [hstart, hstop]
  have hover := (Range.overlaps_iff (hproper x hmx) (hproper y hmy)).mpr (Or.inl hsame)
  rw [hxy] at hover
  cases hover

theorem applyAll_of_proper {es : List Edit} {ss : List Splice} (hproper : ∀ e ∈ es, e.range.Proper)
    (hr : resolveAll source es = .ok ss) (hc : ss.Pairwise fun a b => ¬ a.Clash b) :
    applyAll source es = .ok (Splice.outcome ss 0 source) := by
  obtain ⟨ts, hts, hw⟩ := exists_resolveAll source hproper
  obtain rfl := Except.ok.inj (hts.symm.trans hr)
  exact applyAll_of_apart hr hw hc

/-- Edits that do not overlap give the same text in two orders exactly if they insert the same at each
offset. -/
theorem applyAll_eq_iff_of_perm {es fs : List Edit} (hproper : ∀ e ∈ es, e.range.Proper)
    (hclear : es.Pairwise fun x y => x.range.overlaps y.range = false) (hp : fs.Perm es) :
    applyAll source fs = applyAll source es ↔
      ∀ k ≤ source.length, insertedAt source fs k = insertedAt source es k := by
  obtain ⟨ss, hr, hw⟩ := exists_resolveAll source hproper
  obtain ⟨ts, htr, hperm⟩ := resolveAll_perm hp hr
  have hc := pairwise_not_clash hproper hr hclear
  have hct : ts.Pairwise fun a b => ¬ a.Clash b :=
    (hperm.pairwise_iff fun {a b} hab hba => hab hba.symm).mpr hc
  have hwt : ∀ s ∈ ts, s.Within source.length := fun s hs => hw s (hperm.mem_iff.mp hs)
  rw [applyAll_of_apart hr hw hc, applyAll_of_apart htr hwt hct, Except.ok.injEq,
    Splice.outcome_eq_iff_of_perm hw hc hperm]
  simp only [insertedAt_eq_inserted hr, insertedAt_eq_inserted htr, Nat.zero_le, Nat.zero_add,
    true_imp_iff]

end Edit

namespace EditBuilder

/-- What a builder has accepted step after step: edits of the steps, no two of which overlap. -/
theorem accepted_run (source : Text) {steps : List Step} (h : ∀ s ∈ steps, s.edit.range.Proper) :
    ((ofSource source).run steps).source = source ∧
      (∀ e ∈ ((ofSource source).run steps).accepted, e.range.Proper) ∧
      ((ofSource source).run steps).accepted.Pairwise
        fun x y => x.range.overlaps y.range = false := by
  obtain ⟨kept, hsub, hrun, hp⟩ := exists_kept (ofSource source) steps List.Pairwise.nil
  refine ⟨by rw [hrun]; rfl, ?_, hp⟩
  intro e he
  rw [hrun] at he
  obtain ⟨s, hs, rfl⟩ := List.mem_map.mp he
  exact h s (hsub.mem hs)

/-- The edits that a builder has accepted are accepted in every order, and are listed in the same order
then. The text is that of the listed edits exactly if at each offset the edits insert the same in the order
of acceptance and in document order. It always is if no edit reaches beyond the end of a line or of the
text. -/
theorem apply_eq_applyAll_edits_iff (source : Text) (steps : List Step)
    (h : ∀ s ∈ steps, s.edit.range.Proper) :
    let b := (ofSource source).run steps
    ∃ listed, Edit.applyAll source b.edits = .ok listed ∧
      ∀ order : List Edit, order.Perm b.accepted →
        ∃ c t, (ofSource source).addAll order = .ok c ∧ (order = b.accepted → c = b) ∧
          c.edits = b.edits ∧ c.apply = .ok t ∧
          (t = listed ↔ ∀ k ≤ source.length,
            Edit.insertedAt source order k = Edit.insertedAt source b.edits k) ∧
          ((∀ e ∈ order, e.range.start.InText source ∧ e.range.stop.InText source) → t = listed) := by
  obtain ⟨hsource, hproper, hclear⟩ := accepted_run source h
  intro b
  have hperm : b.edits.Perm b.accepted := b.edits_perm
  have hedits : ∀ e ∈ b.edits, e.range.Proper := fun e he => hproper e (hperm.mem_iff.mp he)
  have hapart := (pairwise_overlaps_perm hperm).mpr hclear
  obtain ⟨listed, hlisted : Edit.applyAll source b.edits = .ok listed⟩ :=
    exists_apply (b := ⟨source, b.edits⟩) hedits hapart
  refine ⟨listed, hlisted, ?_⟩
  intro order horder
  have hpo : ∀ e ∈ order, e.range.Proper := fun e he => hproper e (horder.mem_iff.mp he)
  have hco := (pairwise_overlaps_perm horder).mpr hclear
  obtain ⟨t, ht⟩ := exists_apply (b := ⟨source, order⟩) hpo hco
  have hiff : t = listed ↔ ∀ k ≤ source.length,
      Edit.insertedAt source order k = Edit.insertedAt source b.edits k := by
    rw [← Edit.applyAll_eq_iff_of_perm hedits hapart (horder.trans hperm.symm), hlisted]
    exact ⟨fun he => he ▸ ht, fun he => Except.ok.inj (ht.symm.trans he)⟩
  refine ⟨⟨source, order⟩, t, addAll_of_pairwise hco, ?_, edits_eq_of_perm hproper hclear horder, ht,
    hiff, ?_⟩
  · rintro rfl
    rw [← hsource]
  · intro hin
    rw [hiff]
    intro k _
    exact (Edit.insertedAt_of_perm (hperm.trans horder.symm) hpo hin hco k).symm

/-- A replacement over a line break, an insertion where it starts, and one at the end of the text, not in
document order. -/
def stepsInText : List Step :=
  [.insert ⟨1, 2⟩ "!".toList, .replace ⟨⟨0, 1⟩, ⟨1, 1⟩⟩ "X".toList, .insert ⟨0, 1⟩ "+".toList]

theorem stepsInText_in_any_order :
    (∀ s ∈ stepsInText, s.edit.range.Proper) ∧
      ∀ order, order.Perm (stepsInText.map Step.edit) →
        ∃ c, (ofSource "ab\ncd".toList).addAll order = .ok c ∧ c.apply = .ok "a+Xd!".toList := by
  have hproper : ∀ s ∈ stepsInText, s.edit.range.Proper := by decide
  have haccepted : ((ofSource "ab\ncd".toList).run stepsInText).accepted =
      stepsInText.map Step.edit := by decide
  have hin : ∀ e ∈ stepsInText.map Step.edit,
      e.range.start.InText "ab\ncd".toList ∧ e.range.stop.InText "ab\ncd".toList := by decide
  have hresolved : Edit.resolveAll "ab\ncd".toList (stepsInText.map Step.edit) =
      .ok [⟨5, 5, "!".toList⟩, ⟨1, 4, "X".toList⟩, ⟨1, 1, "+".toList⟩] := by decide
  obtain ⟨listed, -, hany⟩ := apply_eq_applyAll_edits_iff "ab\ncd".toList stepsInText hproper
  rw [haccepted] at hany
  -- the order of acceptance gives the text
  obtain ⟨b, t, -, hb, -, ht, -, hlisted⟩ := hany _ (List.Perm.refl _)
  have htext : b.apply = .ok "a+Xd!".toList := by
    rw [hb rfl]
    exact Edit.applyAll_of_proper (by decide) hresolved (by decide)
  obtain rfl := Except.ok.inj (ht.symm.trans htext)
  refine ⟨hproper, ?_⟩
  intro order horder
  obtain ⟨c, t, hc, -, -, ht, -, hsame⟩ := hany order horder
  refine ⟨c, hc, ?_⟩
  rw [ht, hsame fun e he => hin e (horder.mem_iff.mp he), hlisted hin]

/-- Two insertions beyond the end of the line, the later point first. -/
def beyondTheLine : List Step :=
  [.insert ⟨0, 9⟩ "y".toList, .insert ⟨0, 5⟩ "x".toList]

/-- The builder applies them in the order of acceptance, though it lists them in document order. -/
theorem later_point_applied_first :
    (∀ s ∈ beyondTheLine, s.edit.range.Proper) ∧
      (ofSource "ab".toList).addAll (beyondTheLine.map Step.edit) =
        .ok ((ofSource "ab".toList).run beyondTheLine) ∧
      ((ofSource "ab".toList).run beyondTheLine).apply = .ok "abyx".toList ∧
      Edit.applyAll "ab".toList ((ofSource "ab".toList).run beyondTheLine).edits =
        .ok "abxy".toList := by
  have hproper : ∀ s ∈ beyondTheLine, s.edit.range.Proper := by decide
  have hyx : Edit.resolveAll "ab".toList (beyondTheLine.map Step.edit) =
      .ok [⟨2, 2, "y".toList⟩, ⟨2, 2, "x".toList⟩] := by decide
  have hxy : Edit.resolveAll "ab".toList (beyondTheLine.map Step.edit).reverse =
      .ok [⟨2, 2, "x".toList⟩, ⟨2, 2, "y".toList⟩] := by decide
  have hlisted : ((ofSource "ab".toList).run beyondTheLine).edits =
      (beyondTheLine.map Step.edit).reverse := by
    obtain ⟨-, haccepted, hclear⟩ := accepted_run "ab".toList hproper
    rw [← edits_eq_of_perm (c := ⟨"ab".toList, (beyondTheLine.map Step.edit).reverse⟩) haccepted hclear
      (List.reverse_perm _)]
    exact List.mergeSort_of_pairwise (by decide)
  rw [hlisted]
  exact ⟨hproper, rfl, Edit.applyAll_of_proper (by decide) hyx (by decide),
    Edit.applyAll_of_proper (by decide) hxy (by decide)⟩

end EditBuilder

end LuaIndex
