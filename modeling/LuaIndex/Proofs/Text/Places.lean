import LuaIndex.Text.Classes
import LuaIndex.Text.Basic
import LuaIndex.Text.Lines
import Mathlib.Data.List.TakeWhile

namespace LuaIndex.Text

/-- The text with what stands from one column up to another replaced. -/
def splice (t : Text) (start stop : Nat) (new : Text) : Text :=
  t.take start ++ new ++ t.drop stop

theorem splice_append_left (p t new : Text) (start stop : Nat) :
    splice (p ++ t) (p.length + start) (p.length + stop) new = p ++ splice t start stop new := by
  simp only [splice, List.take_length_add_append, List.drop_length_add_append, List.append_assoc]

theorem splice_append_right {t : Text} {start stop : Nat} (r new : Text)
    (hs : start ≤ stop) (ht : stop ≤ t.length) :
    splice (t ++ r) start stop new = splice t start stop new ++ r := by
  simp only [splice]
  rw [List.take_append_of_le_length (Nat.le_trans hs ht), List.drop_append_of_le_length ht]
  simp only [List.append_assoc]

theorem splice_middle (p w r new : Text) :
    splice (p ++ (w ++ r)) p.length (p.length + w.length) new = p ++ (new ++ r) := by
  simp [splice]

theorem clampColumn_natCast (length column : Nat) :
    clampColumn length (column : Int) = min column length := by
  simp [clampColumn, show ¬ ((column : Int) < 0) by omega]

theorem takeTo_of_nonneg {column : Int} (h : 0 ≤ column) (t : Text) :
    takeTo t column = t.take column.toNat := by
  rw [takeTo, clampColumn, if_neg (Int.not_lt_of_ge h), ← List.take_eq_take_min]

theorem exists_append {t : Text} {n : Nat} (h : n ≤ t.length) : ∃ w r, t = w ++ r ∧ w.length = n :=
  ⟨t.take n, t.drop n, (List.take_append_drop n t).symm, List.length_take_of_le h⟩

theorem dropTo_length (p t : Text) : dropTo (p ++ t) p.length = t := by
  simp [dropTo, clampColumn_natCast]

theorem cut_middle (p w t : Text) :
    cut (p ++ (w ++ t)) p.length ((p.length + w.length : Nat) : Int) = w := by
  have hleft : min p.length (p ++ (w ++ t)).length = p.length := by
    rw [List.length_append]
    omega
  have hright : min (p.length + w.length) (p ++ (w ++ t)).length = p.length + w.length := by
    rw [List.length_append, List.length_append]
    omega
  rw [cut, clampColumn_natCast, clampColumn_natCast, hleft, hright, List.take_length_add_append,
    List.drop_left, List.take_left]

/-- A beginning for which a condition holds is taken whole if what follows breaks the condition. -/
theorem takeWhile_append_of_stop {p : Char → Bool} {w rest : Text} (hw : ∀ c ∈ w, p c = true)
    (hrest : ∀ c, rest.head? = some c → p c = false) : (w ++ rest).takeWhile p = w := by
  rw [List.takeWhile_append_of_pos hw]
  cases rest with
  | nil => simp
  | cons c rest => simp [hrest c rfl]

theorem dropWhile_append_of_stop {p : Char → Bool} {w rest : Text} (hw : ∀ c ∈ w, p c = true)
    (hrest : ∀ c, rest.head? = some c → p c = false) : (w ++ rest).dropWhile p = rest := by
  rw [List.dropWhile_append_of_pos hw]
  cases rest with
  | nil => rfl
  | cons c rest => simp [hrest c rfl]

/-- What is taken while a condition holds is the longest beginning for which it does. -/
theorem takeWhile_eq_iff {p : Char → Bool} {t w : Text} :
    t.takeWhile p = w ↔
      ∃ rest, t = w ++ rest ∧ (∀ c ∈ w, p c = true) ∧ ∀ c, rest.head? = some c → p c = false := by
  constructor
  · rintro rfl
    refine ⟨t.dropWhile p, List.takeWhile_append_dropWhile.symm,
      fun c hc => List.mem_takeWhile_imp hc, fun c hc => ?_⟩
    have hhead := List.head?_dropWhile_not p t
    rw [hc] at hhead
    simpa using hhead
  · rintro ⟨rest, rfl, hw, hrest⟩
    exact takeWhile_append_of_stop hw hrest

/-- Stripping leaves nothing of white space, and something of everything else. -/
theorem strip_eq_nil_iff {t : Text} : strip t = [] ↔ ∀ c ∈ t, isBlank c = true := by
  have hleft : stripLeft t = [] ↔ ∀ c ∈ t, isBlank c = true := List.dropWhile_eq_nil_iff
  have hright : strip t = [] ↔ ∀ c ∈ stripLeft t, isBlank c = true := by
    simp [strip, stripRight, List.dropWhile_eq_nil_iff]
  rw [hright]
  constructor
  · intro h
    rw [← hleft]
    cases hs : stripLeft t with
    | nil => rfl
    | cons c rest =>
      have hblank := h c (by simp [hs])
      have hfirst := List.head?_dropWhile_not isBlank t
      rw [show t.dropWhile isBlank = c :: rest from hs] at hfirst
      simp only [List.head?_cons, hblank] at hfirst
      cases hfirst
  · intro h c hc
    rw [hleft.mpr h] at hc
    cases hc

/-- A search finds the first suffix that can be read. -/
theorem search_eq_some_iff {α : Type} {read : Text → Option α} {t : Text} {k i : Nat} {x : α} :
    search read k t = some (i, x) ↔
      ∃ p r, t = p ++ r ∧ i = k + p.length ∧ read r = some x ∧
        ∀ q s, t = q ++ s → q.length < p.length → read s = none := by
  induction t generalizing k with
  | nil =>
    constructor
    · intro h
      obtain ⟨y, hy, he⟩ := Option.map_eq_some_iff.mp h
      obtain ⟨rfl, rfl⟩ := Prod.mk.inj he
      exact ⟨[], [], rfl, rfl, hy, fun q s _ hq => absurd hq (Nat.not_lt_zero _)⟩
    · rintro ⟨p, r, ht, rfl, hr, -⟩
      obtain ⟨rfl, rfl⟩ := List.append_eq_nil_iff.mp ht.symm
      simp [search, hr]
  | cons c rest ih =>
    cases hc : read (c :: rest) with
    | some a =>
      simp only [search, hc]
      constructor
      · intro h
        obtain ⟨rfl, rfl⟩ := Prod.mk.inj (Option.some.inj h)
        exact ⟨[], c :: rest, rfl, rfl, hc, fun q s _ hq => absurd hq (Nat.not_lt_zero _)⟩
      · rintro ⟨p, r, ht, rfl, hr, hfirst⟩
        cases p with
        | nil =>
          have he : r = c :: rest := ht.symm
          subst he
          rw [hc] at hr
          exact congrArg some (Prod.ext rfl (Option.some.inj hr))
        | cons d p =>
          have hn := hfirst [] (c :: rest) rfl (by simp)
          rw [hc] at hn
          cases hn
    | none =>
      simp only [search, hc]
      rw [ih]
      constructor
      · rintro ⟨p, r, rfl, rfl, hr, hfirst⟩
        refine ⟨c :: p, r, rfl, by simp only [List.length_cons]; omega, hr, ?_⟩
        intro q s hq hl
        cases q with
        | nil =>
          have he : s = c :: (p ++ r) := hq.symm
          rw [he]
          exact hc
        | cons d q =>
          exact hfirst q s (List.cons.inj hq).2 (by simpa using hl)
      · rintro ⟨p, r, ht, rfl, hr, hfirst⟩
        cases p with
        | nil =>
          have he : r = c :: rest := ht.symm
          rw [he, hc] at hr
          cases hr
        | cons d p =>
          refine ⟨p, r, (List.cons.inj ht).2, by simp only [List.length_cons]; omega, hr, ?_⟩
          intro q s hq hl
          exact hfirst (c :: q) s (by rw [hq]; rfl) (by simpa using hl)

theorem search_eq_none_iff {α : Type} {read : Text → Option α} {t : Text} {k : Nat} :
    search read k t = none ↔ ∀ p r, t = p ++ r → read r = none := by
  constructor
  · intro h
    induction t generalizing k with
    | nil =>
      intro p r ht
      obtain ⟨rfl, rfl⟩ := List.append_eq_nil_iff.mp ht.symm
      simpa [search] using h
    | cons c rest ih =>
      intro p r ht
      cases hc : read (c :: rest) with
      | some a => simp [search, hc] at h
      | none =>
        simp only [search, hc] at h
        cases p with
        | nil => rw [← hc]; exact congrArg read ht.symm
        | cons d p => exact ih h p r (List.cons.inj ht).2
  · intro h
    cases hs : search read k t with
    | none => rfl
    | some found =>
      obtain ⟨i, x⟩ := found
      obtain ⟨p, r, ht, -, hr, -⟩ := search_eq_some_iff.mp hs
      rw [h p r ht] at hr
      cases hr

theorem exists_lines_eq_concat (t : Text) : ∃ ls last, lines t = ls ++ [last] :=
  ⟨_, _, (List.dropLast_concat_getLast (lines_ne_nil t)).symm⟩

/-- No line holds a line feed. -/
theorem not_mem_lines {t l : Text} (h : l ∈ lines t) : '\n' ∉ l := by
  induction t generalizing l with
  | nil =>
    have he : l = [] := by simpa [lines] using h
    simp [he]
  | cons c rest ih =>
    by_cases hc : c = '\n'
    · simp only [lines, hc, if_true] at h
      rcases List.mem_cons.mp h with rfl | h
      · simp
      · exact ih h
    · simp only [lines, hc, if_false] at h
      cases hl : lines rest with
      | nil => exact absurd hl (lines_ne_nil rest)
      | cons m ms =>
        rw [hl] at h ih
        rcases List.mem_cons.mp h with rfl | h
        · have hm := ih (l := m) (by simp)
          simp [hm, Ne.symm hc]
        · exact ih (by simp [h])

/-- Lines that others follow: each with its line feed. -/
def lead (ls : List Text) : Text :=
  ls.flatMap (· ++ ['\n'])

@[simp] theorem lead_nil : lead [] = [] := rfl

@[simp] theorem lead_append (ls ms : List Text) : lead (ls ++ ms) = lead ls ++ lead ms := by
  simp [lead]

@[simp] theorem lead_singleton (l : Text) : lead [l] = l ++ ['\n'] := by
  simp [lead]

theorem unlines_append (ls : List Text) {ms : List Text} (h : ms ≠ []) :
    unlines (ls ++ ms) = lead ls ++ unlines ms := by
  induction ls with
  | nil => rfl
  | cons l ls ih =>
    have hn : ls ++ ms ≠ [] := by simp [h]
    rw [List.cons_append, unlines_cons l hn, ih]
    simp [lead]

theorem unlines_concat (ls : List Text) (last : Text) : unlines (ls ++ [last]) = lead ls ++ last :=
  unlines_append ls (List.cons_ne_nil last [])

theorem eq_lead_append {t last : Text} {ls : List Text} (h : lines t = ls ++ [last]) :
    t = lead ls ++ last := by
  rw [← unlines_concat, ← h, unlines_lines]

theorem exists_append_of_getElem? {α : Type} {xs : List α} {i : Nat} {x : α} (h : xs[i]? = some x) :
    ∃ pre post, xs = pre ++ x :: post ∧ pre.length = i := by
  obtain ⟨hi, rfl⟩ := List.getElem?_eq_some_iff.mp h
  refine ⟨xs.take i, xs.drop (i + 1), ?_, by simp; omega⟩
  rw [← List.drop_eq_getElem_cons hi, List.take_append_drop]

/-- A line stands in its text after the lines before it. -/
theorem exists_eq_lead_append {t l : Text} {pre post : List Text} (h : lines t = pre ++ l :: post) :
    ∃ rest, t = lead pre ++ (l ++ rest) := by
  have hun := unlines_lines t
  rw [h, unlines_append pre (by simp)] at hun
  cases post with
  | nil => exact ⟨[], by rw [← hun]; simp [unlines]⟩
  | cons b post => exact ⟨'\n' :: unlines (b :: post), by rw [← hun, unlines_cons l (by simp)]⟩

/-- Two texts one after the other: the last line of the first goes on with the first of the second. -/
theorem lines_append {p a t l : Text} {pre post : List Text} (hp : lines p = pre ++ [a])
    (ht : lines t = l :: post) : lines (p ++ t) = pre ++ (a ++ l) :: post := by
  induction p generalizing pre a with
  | nil =>
    obtain ⟨rfl, rfl⟩ : pre = [] ∧ a = [] := by
      rcases pre with - | ⟨b, pre⟩
      · simpa [lines] using hp.symm
      · simp [lines] at hp
    exact ht
  | cons c p ih =>
    by_cases hc : c = '\n'
    · rw [lines, if_pos hc] at hp
      rcases pre with - | ⟨b, pre⟩
      · exact absurd (List.cons.inj hp).2 (lines_ne_nil p)
      · obtain ⟨rfl, hrest⟩ := List.cons.inj hp
        rw [List.cons_append, lines, if_pos hc, ih hrest]
        rfl
    · rw [lines, if_neg hc] at hp
      rw [List.cons_append, lines, if_neg hc]
      rcases hl : lines p with - | ⟨b, bs⟩
      · exact absurd hl (lines_ne_nil p)
      · rw [hl] at hp
        dsimp only at hp
        rcases pre with - | ⟨d, pre⟩
        · obtain ⟨rfl, rfl⟩ := List.cons.inj hp
          have happ := ih (show lines p = [] ++ [b] from hl)
          rw [happ]
          rfl
        · obtain ⟨rfl, rfl⟩ := List.cons.inj hp
          have happ := ih (show lines p = (b :: pre) ++ [a] from hl)
          rw [happ]
          rfl

theorem lines_of_not_mem {t : Text} (h : '\n' ∉ t) : lines t = [t] := by
  induction t with
  | nil => rfl
  | cons c t ih =>
    simp only [List.mem_cons, not_or] at h
    rw [lines, if_neg (Ne.symm h.1), ih h.2]

/-- The lines before a line hold one line feed each. -/
theorem count_lead_append {ls : List Text} {a : Text} (h : ∀ l ∈ ls, '\n' ∉ l) (ha : '\n' ∉ a) :
    (lead ls ++ a).count '\n' = ls.length := by
  induction ls with
  | nil => simpa using List.count_eq_zero.mpr ha
  | cons l ls ih =>
    have hl : l.count '\n' = 0 := List.count_eq_zero.mpr (h l List.mem_cons_self)
    have hls := ih fun m hm => h m (List.mem_cons_of_mem l hm)
    rw [show l :: ls = [l] ++ ls from rfl, lead_append, lead_singleton, List.append_assoc]
    simp only [List.count_append, hl, List.count_singleton_self] at hls ⊢
    simp only [List.length_append, List.length_singleton]
    omega

end LuaIndex.Text
