import LuaIndex.Edit.Basic
import LuaIndex.Proofs.Text.Places

namespace LuaIndex

namespace Splice

/-- The splices come one after the other, from `cursor` up to at most `limit`. They may touch. -/
def Follow (limit : Nat) (cursor : Int) : List Splice → Prop
  | [] => cursor ≤ limit
  | s :: ss => cursor ≤ s.start ∧ s.start ≤ s.stop ∧ Follow limit s.stop ss

/-- The text with one splice put in. -/
def put (s : Splice) (t : Text) : Text :=
  Text.splice t s.start.toNat s.stop.toNat s.text

variable {limit : Nat} {cursor : Int} {ss : List Splice}

theorem Follow.cursor_le (h : Follow limit cursor ss) : cursor ≤ limit := by
  induction ss generalizing cursor with
  | nil => exact h
  | cons s ss ih =>
    have ht := ih h.2.2
    have hs := h.1
    have hl := h.2.1
    omega

theorem Follow.bounds (h : Follow limit cursor ss) {s : Splice} (hs : s ∈ ss) :
    cursor ≤ s.start ∧ s.start ≤ s.stop := by
  induction ss generalizing cursor with
  | nil => cases hs
  | cons a ss ih =>
    rcases List.mem_cons.mp hs with rfl | hs
    · exact ⟨h.1, h.2.1⟩
    · have ht := ih h.2.2 hs
      have ha := h.1
      have hl := h.2.1
      omega

theorem Follow.weaken (h : Follow limit cursor ss) {c : Int} (hc : c ≤ cursor) :
    Follow limit c ss := by
  cases ss with
  | nil => exact Int.le_trans hc h
  | cons s ss => exact ⟨Int.le_trans hc h.1, h.2.1, h.2.2⟩

theorem Follow.append {middle : Nat} {ts : List Splice} (h : Follow middle cursor ss)
    (ht : Follow limit middle ts) : Follow limit cursor (ss ++ ts) := by
  induction ss generalizing cursor with
  | nil => exact ht.weaken h
  | cons s ss ih => exact ⟨h.1, h.2.1, ih h.2.2⟩

theorem follow_of_pairwise (hc : cursor ≤ limit)
    (hb : ∀ s ∈ ss, cursor ≤ s.start ∧ s.start ≤ s.stop ∧ s.stop ≤ limit)
    (hp : ss.Pairwise fun a b => a.stop ≤ b.start) : Follow limit cursor ss := by
  induction ss generalizing cursor with
  | nil => exact hc
  | cons s ss ih =>
    obtain ⟨hfirst, hrest⟩ := List.pairwise_cons.mp hp
    have hs := hb s (by simp)
    refine ⟨hs.1, hs.2.1, ih hs.2.2 ?_ hrest⟩
    intro x hx
    exact ⟨hfirst x hx, (hb x (by simp [hx])).2⟩

/-- The splice in a text in which `n` characters more come first. -/
def shift (n : Nat) (s : Splice) : Splice :=
  ⟨n + s.start, n + s.stop, s.text⟩

theorem shift_zero : shift 0 = id := by
  funext s
  simp [shift]

theorem Follow.shift (n : Nat) (h : Follow limit cursor ss) :
    Follow (n + limit) (n + cursor) (ss.map (Splice.shift n)) := by
  induction ss generalizing cursor with
  | nil =>
    have hc : cursor ≤ limit := h
    change (n : Int) + cursor ≤ ((n + limit : Nat) : Int)
    omega
  | cons s ss ih =>
    have hs := h.1
    have hl := h.2.1
    refine ⟨?_, ?_, ih h.2.2⟩
    · change (n : Int) + cursor ≤ n + s.start
      omega
    · change (n : Int) + s.start ≤ n + s.stop
      omega

theorem Follow.pairwise_stop_le (h : Follow limit cursor ss) :
    ss.Pairwise fun a b => a.stop ≤ b.start := by
  induction ss generalizing cursor with
  | nil => exact List.Pairwise.nil
  | cons a ss ih => exact List.Pairwise.cons (fun b hb => (h.2.2.bounds hb).1) (ih h.2.2)

theorem Follow.pairwise_le (h : Follow limit cursor ss) :
    ss.Pairwise (fun a b => le a b = true) := by
  induction ss generalizing cursor with
  | nil => exact List.Pairwise.nil
  | cons a ss ih =>
    refine List.Pairwise.cons ?_ (ih h.2.2)
    intro b hb
    have hn := h.2.2.bounds hb
    have hl := h.2.1
    simp only [le, Bool.or_eq_true, Bool.and_eq_true, decide_eq_true_eq, beq_iff_eq]
    omega

/-- What stands before the first splice stays. -/
theorem Follow.take_foldr_put {source : Text} (h : Follow source.length cursor ss) {n : Nat}
    (hn : n ≤ cursor.toNat) : (ss.foldr put source).take n = source.take n := by
  induction ss generalizing cursor n with
  | nil => rfl
  | cons s ss ih =>
    have hs := h.1
    have hl := h.2.1
    have hlimit := h.2.2.cursor_le
    have hkeep : (ss.foldr put source).take s.start.toNat = source.take s.start.toNat :=
      ih h.2.2 (by omega)
    have hlen : ((ss.foldr put source).take s.start.toNat).length = s.start.toNat := by
      rw [hkeep, List.length_take]
      omega
    simp only [List.foldr_cons, put, Text.splice, List.append_assoc]
    rw [List.take_append_of_le_length (by omega), hkeep, List.take_take, Nat.min_eq_left (by omega)]

/-- Splices of a part of a text change that part only. -/
theorem foldr_put_shift {t : Text} (h : Follow t.length cursor ss) (h0 : 0 ≤ cursor) (p r : Text) :
    (ss.map (shift p.length)).foldr put (p ++ (t ++ r)) = p ++ (ss.foldr put t ++ r) := by
  induction ss generalizing cursor with
  | nil => rfl
  | cons s ss ih =>
    have hs := h.1
    have hl := h.2.1
    have hlimit := h.2.2.cursor_le
    have hkeep := h.2.2.take_foldr_put (n := s.stop.toNat) (Nat.le_refl _)
    have hlen : s.stop.toNat ≤ (ss.foldr put t).length := by
      have hle := congrArg List.length hkeep
      simp only [List.length_take] at hle
      omega
    have hstart : (shift p.length s).start.toNat = p.length + s.start.toNat := by
      simp only [shift]
      omega
    have hstop : (shift p.length s).stop.toNat = p.length + s.stop.toNat := by
      simp only [shift]
      omega
    rw [List.map_cons, List.foldr_cons, ih h.2.2 (by omega), put, hstart, hstop,
      Text.splice_append_left, Text.splice_append_right _ _ (by omega) hlen]
    rfl

/-- One pass from the front gives what single replacements from the back give. -/
theorem weave_eq_foldr_put {source : Text} (h : Follow source.length cursor ss) (h0 : 0 ≤ cursor) :
    weave source cursor ss = .ok ((ss.foldr put source).drop cursor.toNat) := by
  induction ss generalizing cursor with
  | nil =>
    have hc : cursor ≤ source.length := h
    have hneg : ¬ cursor < 0 := by omega
    simp only [weave, Text.dropTo, Text.clampColumn, hneg, if_false, List.foldr_nil]
    rw [Nat.min_eq_left (by omega)]
  | cons s ss ih =>
    have hs := h.1
    have hl := h.2.1
    have hlimit := h.2.2.cursor_le
    have hrest := ih h.2.2 (by omega)
    have hkeep := h.2.2.take_foldr_put (n := s.start.toNat) (by omega)
    have hlen : ((ss.foldr put source).take s.start.toNat).length = s.start.toNat := by
      rw [hkeep, List.length_take]
      omega
    have hcut : Text.cut source cursor s.start =
        (source.take s.start.toNat).drop cursor.toNat := by
      simp only [Text.cut, Text.clampColumn, show ¬ cursor < 0 by omega,
        show ¬ s.start < 0 by omega, if_false]
      rw [Nat.min_eq_left (by omega), Nat.min_eq_left (by omega)]
    simp only [weave, show ¬ s.start < cursor by omega, if_false, hrest, hcut]
    simp only [List.foldr_cons, put, Text.splice, List.append_assoc]
    rw [List.drop_append_of_le_length (by omega), hkeep]

end Splice

namespace Edit

/-- Edits whose splices follow each other are applied, each as if it were the only one. -/
theorem applyAll_of_follow {source : Text} {es : List Edit} {ss : List Splice}
    (hr : resolveAll source es = .ok ss) (hf : Splice.Follow source.length 0 ss) :
    applyAll source es = .ok (ss.foldr Splice.put source) := by
  have hw := Splice.weave_eq_foldr_put hf (Int.le_refl 0)
  simp only [applyAll, hr]
  rw [List.mergeSort_of_pairwise hf.pairwise_le, hw]
  rfl

theorem resolveAll_append {source : Text} {es fs : List Edit} {ss ts : List Splice}
    (he : resolveAll source es = .ok ss) (hf : resolveAll source fs = .ok ts) :
    resolveAll source (es ++ fs) = .ok (ss ++ ts) := by
  induction es generalizing ss with
  | nil =>
    have hs : ss = [] := (Except.ok.inj he).symm
    simp [hs, hf]
  | cons e es ih =>
    simp only [resolveAll] at he
    cases hres : resolve source e with
    | error err => simp [hres] at he
    | ok s =>
      cases hall : resolveAll source es with
      | error err => simp [hres, hall] at he
      | ok rest =>
        simp only [hres, hall] at he
        have hs : ss = s :: rest := (Except.ok.inj he).symm
        simp [resolveAll, hres, ih hall, hs]

theorem lineStarts_getElem? (k : Nat) (pre : List Text) (l : Text) (post : List Text) :
    (lineStarts k (pre ++ l :: post))[pre.length]? = some (k + (Text.lead pre).length) := by
  induction pre generalizing k with
  | nil => simp [lineStarts]
  | cons a pre ih =>
    simp only [List.cons_append, lineStarts, List.length_cons, List.getElem?_cons_succ, ih]
    congr 1
    simp only [Text.lead, List.flatMap_cons, List.length_append, List.length_cons, List.length_nil]
    omega

/-- A column of a line lies as far into the text as the lines before it and the column say. One beyond
the end of the line stands for that end. -/
theorem offset_clamped {source l : Text} {pre post : List Text}
    (h : Text.lines source = pre ++ l :: post) (column : Nat) :
    offset source ⟨pre.length, column⟩ =
      .ok (((Text.lead pre).length + min column l.length : Nat) : Int) := by
  have hcount : ¬ (((pre ++ l :: post).length : Int) ≤ (pre.length : Int)) := by
    simp only [List.length_append, List.length_cons]
    omega
  have hlow : ¬ ((pre.length : Int) < -((pre ++ l :: post).length : Int)) := by omega
  have hneg : ¬ ((pre.length : Int) < 0) := by omega
  have hline : (pre ++ l :: post)[pre.length]? = some l := by simp
  have hstart := lineStarts_getElem? 0 pre l post
  simp only [offset, h, hcount, hlow, hneg, if_false, Int.toNat_natCast, hline, hstart]
  congr 1
  omega

theorem offset_of_lines {source l : Text} {pre post : List Text}
    (h : Text.lines source = pre ++ l :: post) {column : Nat} (hc : column ≤ l.length) :
    offset source ⟨pre.length, column⟩ = .ok (((Text.lead pre).length + column : Nat) : Int) := by
  rw [offset_clamped h, Nat.min_eq_left hc]

end Edit

end LuaIndex
