import LuaIndex.Proofs.Edit.Acceptance
import LuaIndex.Proofs.Edit.Splicing
import Mathlib.Data.List.Perm.Basic

namespace LuaIndex

/-- No coordinate is negative. The point may lie beyond the end of its line or of the text. -/
structure Position.Counted (p : Position) : Prop where
  line : 0 ≤ p.line
  character : 0 ≤ p.character

instance (p : Position) : Decidable p.Counted :=
  decidable_of_iff (0 ≤ p.line ∧ 0 ≤ p.character) ⟨fun h => ⟨h.1, h.2⟩, fun h => ⟨h.line, h.character⟩⟩

/-- No coordinate is negative, and the range does not end before it starts. -/
structure Range.Proper (r : Range) : Prop where
  start : r.start.Counted
  stop : r.stop.Counted
  ordered : r.start.le r.stop = true

instance (r : Range) : Decidable r.Proper :=
  decidable_of_iff (r.start.Counted ∧ r.stop.Counted ∧ r.start.le r.stop = true)
    ⟨fun h => ⟨h.1, h.2.1, h.2.2⟩, fun h => ⟨h.start, h.stop, h.ordered⟩⟩

/-- The point is a column of one of the lines of the text, or the end of that line. -/
structure Position.InText (source : Text) (p : Position) : Prop where
  counted : p.Counted
  reached : ∃ l, l ∈ (Text.lines source)[p.line.toNat]? ∧ p.character ≤ l.length

instance (source : Text) (p : Position) : Decidable (p.InText source) :=
  decidable_of_iff
    (p.Counted ∧ ∃ l, l ∈ (Text.lines source)[p.line.toNat]? ∧ p.character ≤ (l.length : Int))
    ⟨fun h => ⟨h.1, h.2⟩, fun h => ⟨h.counted, h.reached⟩⟩

/-- A splice lies in a text of the given length and does not end before it starts. -/
structure Splice.Within (limit : Nat) (s : Splice) : Prop where
  start : 0 ≤ s.start
  ordered : s.start ≤ s.stop
  stop : s.stop ≤ limit

namespace Text

theorem length_lead_add_le {t l : Text} {pre post : List Text}
    (h : lines t = pre ++ l :: post) :
    (lead pre).length + l.length ≤ t.length := by
  obtain ⟨rest, ht⟩ := exists_eq_lead_append h
  rw [ht, List.length_append, List.length_append]
  omega

/-- Of two lines the lower one starts after the end of the upper one. -/
theorem length_lead_add_lt {t l l' : Text} {pre post pre' post' : List Text}
    (h : lines t = pre ++ l :: post) (h' : lines t = pre' ++ l' :: post')
    (hlt : pre.length < pre'.length) :
    (lead pre).length + l.length < (lead pre').length := by
  have hsame : pre ++ l :: post = pre' ++ l' :: post' := h.symm.trans h'
  have hupper : pre ++ [l] <+: pre ++ l :: post := ⟨post, by simp⟩
  have hlower : pre' <+: pre ++ l :: post := ⟨l' :: post', hsame.symm⟩
  have hlength : (pre ++ [l]).length ≤ pre'.length := by
    rw [List.length_append, List.length_singleton]
    omega
  have hpre := List.prefix_of_prefix_length_le hupper hlower hlength
  obtain ⟨middle, rfl⟩ := hpre
  simp only [lead_append, lead_singleton, List.length_append, List.length_singleton]
  omega

end Text

namespace Edit

variable {source : Text}

/-- A point is a column of a line, or it lies below the last line and stands for the end of the text. -/
theorem offset_cases (source : Text) {p : Position} (h : p.Counted) :
    (∃ pre l post, Text.lines source = pre ++ l :: post ∧ p.line = pre.length ∧
      offset source p =
        .ok (((Text.lead pre).length + min p.character.toNat l.length : Nat) : Int)) ∨
    (((Text.lines source).length : Int) ≤ p.line ∧ offset source p = .ok (source.length : Int)) := by
  obtain ⟨line, character⟩ := p
  obtain ⟨i, hi⟩ := Int.eq_ofNat_of_zero_le h.line
  obtain ⟨c, hc⟩ := Int.eq_ofNat_of_zero_le h.character
  dsimp only at hi hc
  subst hi hc
  cases hl : (Text.lines source)[i]? with
  | some l =>
    left
    obtain ⟨pre, post, hsplit, rfl⟩ := Text.exists_append_of_getElem? hl
    exact ⟨pre, l, post, hsplit, rfl, offset_clamped hsplit c⟩
  | none =>
    right
    have hlow : ((Text.lines source).length : Int) ≤ (i : Int) := by
      have hle := List.getElem?_eq_none_iff.mp hl
      omega
    refine ⟨hlow, ?_⟩
    simp only [offset, hlow, if_true]

theorem exists_offset_of_inText {p : Position} (h : p.InText source) :
    ∃ pre l post, Text.lines source = pre ++ l :: post ∧ p.line = pre.length ∧
      p.character ≤ l.length ∧
      offset source p = .ok (((Text.lead pre).length + p.character.toNat : Nat) : Int) := by
  obtain ⟨line, character⟩ := p
  obtain ⟨⟨hline, hchar⟩, l, hl, hle⟩ := h
  dsimp only at hline hchar hl hle
  obtain ⟨i, rfl⟩ := Int.eq_ofNat_of_zero_le hline
  obtain ⟨c, rfl⟩ := Int.eq_ofNat_of_zero_le hchar
  obtain ⟨pre, post, hsplit, rfl⟩ := Text.exists_append_of_getElem? hl
  exact ⟨pre, l, post, hsplit, rfl, hle, offset_of_lines hsplit (by omega)⟩

/-- Different points of a text have different offsets. -/
theorem eq_of_offset_eq {p q : Position} (hp : p.InText source) (hq : q.InText source)
    (h : offset source p = offset source q) : p = q := by
  obtain ⟨pre, l, post, hl, hline, hle, hoffset⟩ := exists_offset_of_inText hp
  obtain ⟨pre', l', post', hl', hline', hle', hoffset'⟩ := exists_offset_of_inText hq
  have hsame := Except.ok.inj (hoffset.symm.trans (h.trans hoffset'))
  have hcp := hp.counted.character
  have hcq := hq.counted.character
  rcases Nat.lt_trichotomy pre.length pre'.length with hlt | heq | hgt
  · have hafter := Text.length_lead_add_lt hl hl' hlt
    omega
  · obtain ⟨rfl, -⟩ := List.append_inj (hl.symm.trans hl') heq
    rw [Position.eq_iff]
    omega
  · have hafter := Text.length_lead_add_lt hl' hl hgt
    omega

/-- Points in document order have offsets in order, none of them beyond the end of the text. -/
theorem offset_mono (source : Text) {p q : Position} (hp : p.Counted) (hq : q.Counted)
    (h : p.le q = true) :
    ∃ a b : Nat, offset source p = .ok (a : Int) ∧ offset source q = .ok (b : Int) ∧ a ≤ b ∧
      b ≤ source.length := by
  have hle := Position.le_iff.mp h
  have hcq := hq.character
  rcases offset_cases source hp with ⟨pre, l, post, hl, hline, hoffset⟩ | ⟨hlow, hoffset⟩
  · have hend := Text.length_lead_add_le hl
    rcases offset_cases source hq with ⟨pre', l', post', hl', hline', hoffset'⟩ | ⟨-, hoffset'⟩
    · have hend' := Text.length_lead_add_le hl'
      refine ⟨_, _, hoffset, hoffset', ?_, by omega⟩
      rcases hle with hlt | ⟨heq, hchar⟩
      · have hafter := Text.length_lead_add_lt hl hl' (by omega)
        omega
      · -- the same line, so that only the columns count
        have hpre : pre.length = pre'.length := by omega
        obtain ⟨rfl, htail⟩ := List.append_inj (hl.symm.trans hl') hpre
        obtain ⟨rfl, -⟩ := List.cons.inj htail
        have hcol : p.character.toNat ≤ q.character.toNat := by omega
        omega
    · exact ⟨_, _, hoffset, hoffset', by omega, Nat.le_refl _⟩
  · rcases offset_cases source hq with ⟨pre', l', post', hl', hline', -⟩ | ⟨-, hoffset'⟩
    · exfalso
      have hcount := congrArg List.length hl'
      simp only [List.length_append, List.length_cons] at hcount
      omega
    · exact ⟨_, _, hoffset, hoffset', Nat.le_refl _, Nat.le_refl _⟩

/-- An edit between proper points becomes a splice within the text. -/
theorem exists_resolve (source : Text) {e : Edit} (h : e.range.Proper) :
    ∃ s, resolve source e = .ok s ∧ s.Within source.length := by
  obtain ⟨a, b, ha, hb, hle, hlimit⟩ := offset_mono source h.start h.stop h.ordered
  refine ⟨⟨a, b, e.text⟩, by simp only [resolve, ha, hb], ?_, ?_, ?_⟩
  · exact Int.natCast_nonneg a
  · exact Int.ofNat_le.mpr hle
  · exact Int.ofNat_le.mpr hlimit

theorem within_of_resolve {e : Edit} {s : Splice} (h : e.range.Proper)
    (hs : resolve source e = .ok s) : s.Within source.length := by
  obtain ⟨t, ht, hwithin⟩ := exists_resolve source h
  rw [ht] at hs
  rwa [← Except.ok.inj hs]

theorem resolve_eq_ok_iff {e : Edit} {s : Splice} :
    resolve source e = .ok s ↔
      offset source e.range.start = .ok s.start ∧ offset source e.range.stop = .ok s.stop ∧
        s.text = e.text := by
  obtain ⟨start, stop, text⟩ := s
  unfold resolve
  cases offset source e.range.start with
  | error err => simp
  | ok a =>
    cases offset source e.range.stop with
    | error err => simp
    | ok b => simp [eq_comm]

/-- An edit that ends no later than another starts does so by offsets as well. -/
theorem stop_le_start_of_resolve {e f : Edit} {s t : Splice} (he : e.range.Proper)
    (hf : f.range.Proper) (h : e.range.stop.le f.range.start = true)
    (hs : resolve source e = .ok s) (ht : resolve source f = .ok t) : s.stop ≤ t.start := by
  obtain ⟨a, b, ha, hb, hle, -⟩ := offset_mono source he.stop hf.start h
  have hstop := (resolve_eq_ok_iff.mp hs).2.1
  have hstart := (resolve_eq_ok_iff.mp ht).1
  have hs := Except.ok.inj (ha.symm.trans hstop)
  have ht := Except.ok.inj (hb.symm.trans hstart)
  omega

/-- Edits are resolved one by one. -/
theorem resolveAll_eq_ok_iff {es : List Edit} {ss : List Splice} :
    resolveAll source es = .ok ss ↔ List.Forall₂ (fun e s => resolve source e = .ok s) es ss := by
  induction es generalizing ss with
  | nil => simp [resolveAll, eq_comm]
  | cons e es ih =>
    rw [List.forall₂_cons_left_iff]
    simp only [← ih, resolveAll]
    cases resolve source e with
    | error err => simp
    | ok s =>
      cases resolveAll source es with
      | error err => simp
      | ok rest => simp [eq_comm]

theorem resolveAll_cons_eq_ok_iff {e : Edit} {es : List Edit} {ss : List Splice} :
    resolveAll source (e :: es) = .ok ss ↔
      ∃ s rest, resolve source e = .ok s ∧ resolveAll source es = .ok rest ∧ ss = s :: rest := by
  rw [resolveAll_eq_ok_iff, List.forall₂_cons_left_iff]
  simp only [← resolveAll_eq_ok_iff]

theorem exists_resolve_of_mem {es : List Edit} {ss : List Splice} {s : Splice}
    (h : resolveAll source es = .ok ss) (hs : s ∈ ss) : ∃ e ∈ es, resolve source e = .ok s := by
  induction es generalizing ss with
  | nil =>
    obtain rfl := Except.ok.inj h
    cases hs
  | cons e es ih =>
    obtain ⟨t, rest, ht, hrest, rfl⟩ := resolveAll_cons_eq_ok_iff.mp h
    rcases List.mem_cons.mp hs with rfl | hs
    · exact ⟨e, List.mem_cons_self, ht⟩
    · obtain ⟨f, hf, hres⟩ := ih hrest hs
      exact ⟨f, List.mem_cons_of_mem e hf, hres⟩

theorem exists_resolveAll (source : Text) {es : List Edit} (h : ∀ e ∈ es, e.range.Proper) :
    ∃ ss, resolveAll source es = .ok ss ∧ ∀ s ∈ ss, s.Within source.length := by
  induction es with
  | nil => exact ⟨[], rfl, by simp⟩
  | cons e es ih =>
    obtain ⟨s, hs, hwithin⟩ := exists_resolve source (h e List.mem_cons_self)
    obtain ⟨ss, hss, hall⟩ := ih fun f hf => h f (List.mem_cons_of_mem e hf)
    refine ⟨s :: ss, by simp only [resolveAll, hs, hss], ?_⟩
    exact List.forall_mem_cons.mpr ⟨hwithin, hall⟩

/-- The same edits in another order become the same splices in another order. -/
theorem resolveAll_perm {es fs : List Edit} {ss : List Splice} (hp : fs.Perm es)
    (h : resolveAll source es = .ok ss) :
    ∃ ts, resolveAll source fs = .ok ts ∧ ts.Perm ss := by
  obtain ⟨ts, hts, hperm⟩ := List.perm_comp_forall₂ hp (resolveAll_eq_ok_iff.mp h)
  exact ⟨ts, resolveAll_eq_ok_iff.mpr hts, hperm⟩

end Edit

end LuaIndex
