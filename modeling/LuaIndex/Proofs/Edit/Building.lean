import LuaIndex.Proofs.Edit.Outcome

namespace LuaIndex

namespace Range

/-- Strict document order: by start, then by end. -/
def Precedes (a b : Range) : Prop :=
  a.start.lt b.start = true ∨ a.start = b.start ∧ a.stop.lt b.stop = true

/-- Proper ranges overlap if they are the same, or if each starts before the other ends. -/
theorem overlaps_iff {a b : Range} (ha : a.Proper) (hb : b.Proper) :
    a.overlaps b = true ↔ a = b ∨ b.start.lt a.stop = true ∧ a.start.lt b.stop = true := by
  obtain ⟨⟨al, ac⟩, ⟨am, ad⟩⟩ := a
  obtain ⟨⟨bl, bc⟩, ⟨bm, bd⟩⟩ := b
  have hoa := ha.ordered
  have hob := hb.ordered
  simp only [Position.le_iff] at hoa hob
  by_cases hea : al = am ∧ ac = ad <;> by_cases heb : bl = bm ∧ bc = bd <;>
    simp [overlaps, isEmpty, hea, heb] <;> omega

/-- Of proper ranges that do not overlap, one ends before the other starts, or where it starts. -/
theorem apart_of_not_overlaps {a b : Range} (ha : a.Proper) (hb : b.Proper)
    (h : a.overlaps b = false) : a.stop.le b.start = true ∨ b.stop.le a.start = true := by
  rw [← Bool.not_eq_true, overlaps_iff ha hb] at h
  simp only [Position.lt_iff, Position.le_iff] at h ⊢
  omega

/-- Ranges in document order that do not overlap are in strict order. -/
theorem precedes_of_not_overlaps {a b : Range} (ha : a.Proper) (hb : b.Proper)
    (h : a.overlaps b = false) (hle : a.le b = true) : a.Precedes b := by
  have hne : a ≠ b := by
    intro he
    rw [← Bool.not_eq_true, overlaps_iff ha hb] at h
    exact h (Or.inl he)
  obtain ⟨⟨al, ac⟩, ⟨am, ad⟩⟩ := a
  obtain ⟨⟨bl, bc⟩, ⟨bm, bd⟩⟩ := b
  simp only [ne_eq, Range.mk.injEq, Position.mk.injEq] at hne
  simp only [Precedes, le_iff, Position.lt_iff, Position.le_iff, Position.eq_iff] at hle ⊢
  omega

theorem Precedes.asymm {a b : Range} (h : a.Precedes b) : ¬ b.Precedes a := by
  simp only [Precedes, Position.lt_iff, Position.eq_iff] at h ⊢
  omega

end Range

namespace Edit

/-- Edits that do not overlap by points do not clash by offsets. -/
theorem pairwise_not_clash {source : Text} {es : List Edit} {ss : List Splice}
    (h : ∀ e ∈ es, e.range.Proper) (hr : resolveAll source es = .ok ss)
    (hp : es.Pairwise fun x y => x.range.overlaps y.range = false) :
    ss.Pairwise fun a b => ¬ a.Clash b := by
  induction es generalizing ss with
  | nil =>
    obtain rfl := Except.ok.inj hr
    exact List.Pairwise.nil
  | cons e es ih =>
    obtain ⟨s, rest, hs, hrest, rfl⟩ := resolveAll_cons_eq_ok_iff.mp hr
    obtain ⟨hfirst, hlater⟩ := List.pairwise_cons.mp hp
    have he := h e List.mem_cons_self
    have hes : ∀ f ∈ es, f.range.Proper := fun f hf => h f (List.mem_cons_of_mem e hf)
    refine List.Pairwise.cons ?_ (ih hes hrest hlater)
    intro t ht
    obtain ⟨f, hf, hres⟩ := exists_resolve_of_mem hrest ht
    have hsw := within_of_resolve he hs
    have htw := within_of_resolve (hes f hf) hres
    rw [Splice.clash_iff hsw.ordered htw.ordered]
    rcases Range.apart_of_not_overlaps he (hes f hf) (hfirst f hf) with hbefore | hafter
    · have hle := stop_le_start_of_resolve he (hes f hf) hbefore hs hres
      omega
    · have hle := stop_le_start_of_resolve (hes f hf) he hafter hres hs
      omega

end Edit

namespace EditBuilder

/-- What may be asked of a builder. -/
inductive Step where
  | replace (range : Range) (text : Text)
  | insert (point : Position) (text : Text)

def Step.edit : Step → Edit
  | .replace range text => ⟨range, text⟩
  | .insert point text => ⟨⟨point, point⟩, text⟩

def answer (b : EditBuilder) : Step → Except EditError EditBuilder
  | .replace range text => b.replace range text
  | .insert point text => b.insert point text

/-- The builder after a step, which is the one before if the step is refused. -/
def after (b : EditBuilder) (s : Step) : EditBuilder :=
  match b.answer s with
  | .ok b' => b'
  | .error _ => b

def run (b : EditBuilder) (steps : List Step) : EditBuilder :=
  steps.foldl after b

theorem run_concat (b : EditBuilder) (steps : List Step) (s : Step) :
    b.run (steps ++ [s]) = (b.run steps).after s := by
  simp [run]

/-- A step is refused exactly if its edit overlaps one that was accepted, and then nothing changes. -/
theorem after_cases (b : EditBuilder) (s : Step) :
    if b.accepted.any fun a => a.range.overlaps s.edit.range then
      (∃ err, b.answer s = .error err) ∧ b.after s = b
    else b.answer s = .ok (b.after s) ∧ b.after s = ⟨b.source, b.accepted ++ [s.edit]⟩ := by
  have hanswer : b.answer s = b.add s.edit := by cases s <;> rfl
  unfold after
  rw [hanswer, add]
  split
  case isTrue hany =>
    obtain ⟨a, ha, hover⟩ := List.any_eq_true.mp hany
    cases hfind : b.accepted.find? fun a => a.range.overlaps s.edit.range with
    | none =>
      have hno := List.find?_eq_none.mp hfind a ha
      exact absurd hover hno
    | some a => exact ⟨⟨_, rfl⟩, rfl⟩
  case isFalse hany =>
    have hfind : (b.accepted.find? fun a => a.range.overlaps s.edit.range) = none := by
      rw [List.find?_eq_none]
      intro a ha hover
      exact hany (List.any_eq_true.mpr ⟨a, ha, hover⟩)
    rw [hfind]
    exact ⟨rfl, rfl⟩

/-- The accepted edits are those of some of the steps, and no two of them overlap. -/
theorem exists_kept (b : EditBuilder) (steps : List Step)
    (hp : b.accepted.Pairwise fun x y => x.range.overlaps y.range = false) :
    ∃ kept : List Step, kept.Sublist steps ∧ b.run steps = ⟨b.source, b.accepted ++ kept.map Step.edit⟩ ∧
      (b.run steps).accepted.Pairwise fun x y => x.range.overlaps y.range = false := by
  induction steps generalizing b with
  | nil => exact ⟨[], List.Sublist.refl [], by simp [run], hp⟩
  | cons s steps ih =>
    have hrun : b.run (s :: steps) = (b.after s).run steps := rfl
    have hafter := after_cases b s
    split at hafter
    case isTrue =>
      obtain ⟨kept, hsub, heq, hpair⟩ := ih b hp
      rw [hrun, hafter.2]
      exact ⟨kept, hsub.cons s, heq, hpair⟩
    case isFalse hno =>
      have hclear : (b.after s).accepted.Pairwise fun x y => x.range.overlaps y.range = false := by
        rw [hafter.2]
        refine List.pairwise_append.mpr ⟨hp, List.pairwise_singleton _ _, ?_⟩
        intro a ha e he
        rw [List.mem_singleton.mp he, ← Bool.not_eq_true]
        intro hover
        exact hno (List.any_eq_true.mpr ⟨a, ha, hover⟩)
      obtain ⟨kept, hsub, heq, hpair⟩ := ih (b.after s) hclear
      refine ⟨s :: kept, hsub.cons_cons s, ?_, ?_⟩
      · rw [hrun, heq, hafter.2]
        simp
      · rw [hrun]
        exact hpair

/-- Accepted edits come out in strict document order. -/
theorem edits_pairwise_precedes {b : EditBuilder} (h : ∀ e ∈ b.accepted, e.range.Proper)
    (hp : b.accepted.Pairwise fun x y => x.range.overlaps y.range = false) :
    b.edits.Pairwise fun x y => x.range.Precedes y.range := by
  have hperm := b.edits_perm
  have hclear := (pairwise_overlaps_perm hperm).mpr hp
  apply (b.edits_sorted.and hclear).imp_of_mem
  intro x y hx hy hxy
  have hpx := h x (hperm.mem_iff.mp hx)
  have hpy := h y (hperm.mem_iff.mp hy)
  exact Range.precedes_of_not_overlaps hpx hpy hxy.2 hxy.1

/-- The order in which edits were accepted does not show. -/
theorem edits_eq_of_perm {b c : EditBuilder} (h : ∀ e ∈ b.accepted, e.range.Proper)
    (hp : b.accepted.Pairwise fun x y => x.range.overlaps y.range = false)
    (hperm : c.accepted.Perm b.accepted) : c.edits = b.edits := by
  have hc : ∀ e ∈ c.accepted, e.range.Proper := fun e he => h e (hperm.mem_iff.mp he)
  have hpc := (pairwise_overlaps_perm hperm).mpr hp
  have hedits : c.edits.Perm b.edits := c.edits_perm.trans (hperm.trans b.edits_perm.symm)
  apply hedits.eq_of_pairwise _ (edits_pairwise_precedes hc hpc) (edits_pairwise_precedes h hp)
  intro x y _ _ hxy hyx
  exact absurd hyx hxy.asymm

theorem exists_apply {b : EditBuilder} (h : ∀ e ∈ b.accepted, e.range.Proper)
    (hp : b.accepted.Pairwise fun x y => x.range.overlaps y.range = false) :
    ∃ t, b.apply = .ok t := by
  obtain ⟨ss, hr, hw⟩ := Edit.exists_resolveAll b.source h
  exact ⟨_, Edit.applyAll_of_apart hr hw (Edit.pairwise_not_clash h hr hp)⟩

/-- Whatever is asked of a builder, step after step: the accepted edits do not overlap, a step is refused
only for an overlap and changes nothing then, the edits come out in strict document order, which is the same
for every order of the accepted steps, all of them being accepted again, and the edits can be applied. -/
theorem accepted_edits_apply (source : Text) (steps : List Step)
    (h : ∀ s ∈ steps, s.edit.range.Proper) :
    let b := (ofSource source).run steps
    (b.accepted.Pairwise fun x y => x.range.overlaps y.range = false) ∧
    (∀ before s rest, steps = before ++ s :: rest →
      let c := (ofSource source).run before
      let d := (ofSource source).run (before ++ [s])
      if c.accepted.any fun a => a.range.overlaps s.edit.range then
        (∃ err, c.answer s = .error err) ∧ d = c
      else c.answer s = .ok d ∧ d = ⟨c.source, c.accepted ++ [s.edit]⟩) ∧
    (b.edits.Pairwise fun x y => x.range.Precedes y.range) ∧
    (∃ kept : List Step, kept.Sublist steps ∧ b.accepted = kept.map Step.edit ∧
      ∀ order : List Step, order.Perm kept →
        ∃ c, (ofSource source).addAll (order.map Step.edit) = .ok c ∧ c.edits = b.edits) ∧
    ∃ t, b.apply = .ok t := by
  obtain ⟨kept, hsub, hrun, hp⟩ := exists_kept (ofSource source) steps List.Pairwise.nil
  have haccepted : ((ofSource source).run steps).accepted = kept.map Step.edit := by
    rw [hrun]
    rfl
  have hproper : ∀ e ∈ ((ofSource source).run steps).accepted, e.range.Proper := by
    intro e he
    rw [haccepted] at he
    obtain ⟨s, hs, rfl⟩ := List.mem_map.mp he
    exact h s (hsub.mem hs)
  refine ⟨hp, ?_, edits_pairwise_precedes hproper hp, ?_, exists_apply hproper hp⟩
  · intro before s rest _
    dsimp only
    rw [run_concat]
    exact after_cases _ s
  · refine ⟨kept, hsub, haccepted, ?_⟩
    intro order horder
    have hperm : (order.map Step.edit).Perm ((ofSource source).run steps).accepted := by
      rw [haccepted]
      exact horder.map Step.edit
    have hclear : ((ofSource source).accepted ++ order.map Step.edit).Pairwise
        fun x y => x.range.overlaps y.range = false := (pairwise_overlaps_perm hperm).mpr hp
    exact ⟨_, addAll_of_pairwise hclear, edits_eq_of_perm hproper hp hperm⟩

/-- A replacement, one that overlaps it, an insertion where the first starts, and a range beyond the end of
the text. -/
def overlappingSteps : List Step :=
  [.replace ⟨⟨0, 1⟩, ⟨1, 1⟩⟩ "X".toList, .replace (.onLine 1 0 2) "Y".toList,
    .insert ⟨0, 1⟩ "+".toList, .replace ⟨⟨1, 7⟩, ⟨4, 0⟩⟩ "!".toList]

theorem overlappingSteps_apply :
    (∀ s ∈ overlappingSteps, s.edit.range.Proper) ∧
      ((ofSource "ab\ncd".toList).run overlappingSteps).size = 3 ∧
      ∃ t, ((ofSource "ab\ncd".toList).run overlappingSteps).apply = .ok t := by
  have hproper : ∀ s ∈ overlappingSteps, s.edit.range.Proper := by decide
  have hspec := accepted_edits_apply "ab\ncd".toList overlappingSteps hproper
  exact ⟨hproper, by decide, hspec.2.2.2.2⟩

end EditBuilder

end LuaIndex
