import LuaIndex.Edit.Builder
import Mathlib.Data.List.Basic

namespace LuaIndex

namespace Position

@[simp] theorem lt_iff {a b : Position} :
    a.lt b = true ↔ a.line < b.line ∨ a.line = b.line ∧ a.character < b.character := by
  simp [lt]

@[simp] theorem le_iff {a b : Position} :
    a.le b = true ↔ a.line < b.line ∨ a.line = b.line ∧ a.character ≤ b.character := by
  simp [le]

theorem eq_iff {a b : Position} : a = b ↔ a.line = b.line ∧ a.character = b.character := by
  cases a
  cases b
  simp

end Position

namespace Range

theorem le_iff {a b : Range} :
    a.le b = true ↔ a.start.lt b.start = true ∨ a.start = b.start ∧ a.stop.le b.stop = true := by
  simp [le]

theorem le_trans (a b c : Range) (hab : a.le b = true) (hbc : b.le c = true) :
    a.le c = true := by
  simp only [le_iff, Position.lt_iff, Position.le_iff, Position.eq_iff] at *
  omega

theorem le_total (a b : Range) : (a.le b || b.le a) = true := by
  simp only [Bool.or_eq_true, le_iff, Position.lt_iff, Position.le_iff, Position.eq_iff]
  omega

theorem overlaps_comm (a b : Range) : a.overlaps b = b.overlaps a := by
  unfold overlaps
  by_cases ha : a.isEmpty <;> by_cases hb : b.isEmpty <;> simp only [ha, hb]
  · simp only [Bool.and_self, if_true]
    exact Bool.beq_comm
  · simp
  · simp
  · simp [Bool.and_comm]

/-- A range with text in it ends before another starts, or where it starts. -/
def Before (a b : Range) : Prop :=
  a.start.lt a.stop = true ∧ a.stop.le b.start = true

theorem Before.not_overlaps {a b : Range} (h : a.Before b) : a.overlaps b = false := by
  have hne : a.isEmpty = false := by
    have hs := h.1
    simp only [isEmpty, beq_eq_false_iff_ne, ne_eq, Position.eq_iff]
    simp only [Position.lt_iff] at hs
    omega
  have hstop : b.start.lt a.stop = false := by
    have hs := h.2
    rw [← Bool.not_eq_true]
    simp only [Position.lt_iff, Position.le_iff] at *
    omega
  unfold overlaps
  by_cases hb : b.isEmpty <;> simp [hne, hb, hstop]

theorem Before.not_le {a b : Range} (h : a.Before b) : b.le a = false := by
  have hs := h.1
  have ht := h.2
  rw [← Bool.not_eq_true]
  simp only [le_iff, Position.lt_iff, Position.le_iff, Position.eq_iff] at *
  omega

theorem Before.le {a b : Range} (h : a.Before b) : a.le b = true := by
  have htotal := le_total a b
  simpa [h.not_le] using htotal

end Range

namespace EditBuilder

/-- Whether edits overlap does not depend on their order. -/
theorem pairwise_overlaps_perm {es ds : List Edit} (hp : es.Perm ds) :
    (es.Pairwise fun x y => x.range.overlaps y.range = false) ↔
      ds.Pairwise fun x y => x.range.overlaps y.range = false := by
  apply hp.pairwise_iff
  intro x y hxy
  rw [Range.overlaps_comm]
  exact hxy

theorem edits_sorted (b : EditBuilder) :
    b.edits.Pairwise fun x y => x.range.le y.range = true :=
  List.pairwise_mergeSort (fun x y z => Range.le_trans x.range y.range z.range)
    (fun x y => Range.le_total x.range y.range) b.accepted

theorem edits_perm (b : EditBuilder) : b.edits.Perm b.accepted :=
  List.mergeSort_perm b.accepted _

/-- Edits that do not overlap, neither each other nor those accepted before, are accepted. -/
theorem addAll_of_pairwise {b : EditBuilder} {es : List Edit}
    (h : (b.accepted ++ es).Pairwise fun x y => x.range.overlaps y.range = false) :
    b.addAll es = .ok { b with accepted := b.accepted ++ es } := by
  induction es generalizing b with
  | nil => simp [addAll]
  | cons e es ih =>
    have hnone : (b.accepted.find? fun a => a.range.overlaps e.range) = none := by
      rw [List.find?_eq_none]
      intro a ha
      have hclear := (List.pairwise_append.mp h).2.2 a ha e (by simp)
      simp [hclear]
    have hadd : b.add e = .ok { b with accepted := b.accepted ++ [e] } := by
      simp only [add, hnone]
    have hrest : ((b.accepted ++ [e]) ++ es).Pairwise
        fun x y => x.range.overlaps y.range = false := by
      simpa using h
    have hall := ih (b := { b with accepted := b.accepted ++ [e] }) hrest
    simp only [addAll, hadd]
    rw [hall]
    simp

/-- Of edits that lie one before the other no two are ordered both ways. -/
theorem eq_of_le_of_le {ds : List Edit} (hd : ds.Pairwise fun x y => x.range.Before y.range)
    {x y : Edit} (hx : x ∈ ds) (hy : y ∈ ds) (hxy : x.range.le y.range = true)
    (hyx : y.range.le x.range = true) : x = y := by
  induction ds with
  | nil => cases hx
  | cons d ds ih =>
    obtain ⟨hfirst, hrest⟩ := List.pairwise_cons.mp hd
    rcases List.mem_cons.mp hx with rfl | hx'
    · rcases List.mem_cons.mp hy with rfl | hy'
      · rfl
      · rw [(hfirst y hy').not_le] at hyx
        cases hyx
    · rcases List.mem_cons.mp hy with rfl | hy'
      · rw [(hfirst x hx').not_le] at hxy
        cases hxy
      · exact ih hrest hx' hy'

/-- Edits that lie one before the other may be given in any order: all are accepted, and they come out
in the order in which they lie. -/
theorem edits_addAll_of_perm {source : Text} {es ds : List Edit} (hp : es.Perm ds)
    (hd : ds.Pairwise fun x y => x.range.Before y.range) :
    ((ofSource source).addAll es).map edits = .ok ds := by
  have hclear : es.Pairwise fun x y => x.range.overlaps y.range = false :=
    (pairwise_overlaps_perm hp).mpr (hd.imp fun hxy => hxy.not_overlaps)
  have hadd : (ofSource source).addAll es = .ok ⟨source, es⟩ := addAll_of_pairwise hclear
  have hle : ds.Pairwise fun x y => x.range.le y.range = true := hd.imp fun hxy => hxy.le
  have hperm := (edits_perm ⟨source, es⟩).trans hp
  have hedits : edits ⟨source, es⟩ = ds := by
    refine List.Perm.eq_of_pairwise ?_ (edits_sorted ⟨source, es⟩) hle hperm
    intro x y hx hy hxy hyx
    exact eq_of_le_of_le hd (hperm.mem_iff.mp hx) hy hxy hyx
  rw [hadd]
  exact congrArg Except.ok hedits

end EditBuilder

end LuaIndex
