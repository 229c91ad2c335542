import LuaIndex.Proofs.Text.Places

namespace LuaIndex.Text

/-- The text with a carriage return put before every line feed. -/
def crlf (t : Text) : Text :=
  t.flatMap fun c => if c = '\n' then ['\r', '\n'] else [c]

@[simp] theorem crlf_nil : crlf [] = [] := rfl

@[simp] theorem crlf_feed (t : Text) : crlf ('\n' :: t) = '\r' :: '\n' :: crlf t := by
  simp [crlf]

theorem crlf_cons {c : Char} (h : c ≠ '\n') (t : Text) : crlf (c :: t) = c :: crlf t := by
  simp [crlf, h]

theorem starts_cases (t : Text) : t = [] ∨ (∃ u, t = '\n' :: u) ∨ ∃ c u, c ≠ '\n' ∧ t = c :: u := by
  cases t with
  | nil => exact Or.inl rfl
  | cons c u =>
    by_cases hc : c = '\n'
    · exact Or.inr (Or.inl ⟨u, by rw [hc]⟩)
    · exact Or.inr (Or.inr ⟨c, u, hc, rfl⟩)

theorem crlf_append (t u : Text) : crlf (t ++ u) = crlf t ++ crlf u :=
  List.flatMap_append

theorem crlf_of_not_mem {t : Text} (h : '\n' ∉ t) : crlf t = t := by
  induction t with
  | nil => rfl
  | cons c t ih =>
    simp only [List.mem_cons, not_or] at h
    rw [crlf_cons (Ne.symm h.1), ih h.2]

theorem lines_feed {a : Text} (h : '\n' ∉ a) (t : Text) : lines (a ++ '\n' :: t) = a :: lines t := by
  have hfeed : lines ('\n' :: t) = [] :: lines t := by rw [lines, if_pos rfl]
  have ha : lines a = [] ++ [a] := lines_of_not_mem h
  simpa using lines_append ha hfeed

/-- Every line but the last ends with the carriage return. -/
theorem lines_crlf {t last : Text} {ls : List Text} (h : lines t = ls ++ [last]) :
    lines (crlf t) = ls.map (· ++ ['\r']) ++ [last] := by
  induction ls generalizing t with
  | nil =>
    have ht : last = t := by
      have hun := unlines_lines t
      rw [h] at hun
      exact hun
    subst ht
    have hno : '\n' ∉ last := not_mem_lines (t := last) (by rw [h]; exact List.mem_singleton_self last)
    rw [crlf_of_not_mem hno, h]
    rfl
  | cons l ls ih =>
    have hl : '\n' ∉ l := not_mem_lines (t := t) (by simp [h])
    have ht : t = l ++ '\n' :: unlines (ls ++ [last]) := by
      have hun := unlines_lines t
      rw [h, List.cons_append, unlines_cons l (by simp)] at hun
      exact hun.symm
    have hrest : lines (unlines (ls ++ [last])) = ls ++ [last] := by
      rw [ht, lines_feed hl] at h
      exact (List.cons.inj h).2
    have hreturn : '\n' ∉ l ++ ['\r'] := by simp [hl]
    have hsplit : crlf t = (l ++ ['\r']) ++ '\n' :: crlf (unlines (ls ++ [last])) := by
      rw [ht, crlf_append, crlf_of_not_mem hl, crlf_feed]
      simp
    rw [hsplit, lines_feed hreturn, ih hrest]
    rfl

theorem after_crlf {w : Text} (hn : '\n' ∉ w) (hr : '\r' ∉ w) (t : Text) :
    after w (crlf t) = (after w t).map crlf := by
  induction w generalizing t with
  | nil => rfl
  | cons a w ih =>
    simp only [List.mem_cons, not_or] at hn hr
    cases t with
    | nil => rfl
    | cons c t =>
      by_cases hc : c = '\n'
      · rw [hc, crlf_feed, after, after, if_neg (Ne.symm hr.1), if_neg (Ne.symm hn.1)]
        rfl
      · rw [crlf_cons hc, after, after]
        by_cases ha : a = c
        · rw [if_pos ha, if_pos ha, ih hn.2 hr.2]
        · rw [if_neg ha, if_neg ha]
          rfl

theorem dropWhile_crlf {p : Char → Bool} (h : p '\r' = p '\n') (t : Text) :
    (crlf t).dropWhile p = crlf (t.dropWhile p) := by
  induction t with
  | nil => rfl
  | cons c t ih =>
    by_cases hc : c = '\n'
    · subst hc
      cases hp : p '\n' with
      | true => simp [h, hp, ih]
      | false => simp [h, hp]
    · rw [crlf_cons hc]
      cases hp : p c with
      | true => simp [hp, ih]
      | false => simp [hp, crlf_cons hc]

theorem takeWhile_crlf {p : Char → Bool} (hr : p '\r' = false) (hn : p '\n' = false) (t : Text) :
    (crlf t).takeWhile p = t.takeWhile p := by
  induction t with
  | nil => rfl
  | cons c t ih =>
    by_cases hc : c = '\n'
    · simp [hc, hr, hn]
    · rw [crlf_cons hc, List.takeWhile_cons, List.takeWhile_cons, ih]

/-- A search that tells what it finds apart from where finds the same in both texts. -/
theorem map_search_crlf {α β : Type} {read : Text → Option α} {g : α → β}
    (hread : ∀ t, (read (crlf t)).map g = (read t).map g) (hfeed : ∀ t, read ('\n' :: t) = none)
    (j k : Nat) (t : Text) :
    (search read j (crlf t)).map (fun m => g m.2) = (search read k t).map fun m => g m.2 := by
  induction t generalizing j k with
  | nil =>
    simp only [crlf_nil, search, Option.map_map]
    rfl
  | cons c t ih =>
    by_cases hc : c = '\n'
    · have hreturn := hread (c :: t)
      rw [hc, hfeed, crlf_feed, Option.map_none, Option.map_eq_none_iff] at hreturn
      rw [hc, crlf_feed, search, hreturn, search, hfeed, search, hfeed]
      exact ih (j + 1 + 1) (k + 1)
    · have hhere := hread (c :: t)
      rw [crlf_cons hc] at hhere ⊢
      rw [search, search]
      cases hb : read (c :: t) with
      | none =>
        rw [hb, Option.map_none, Option.map_eq_none_iff] at hhere
        rw [hhere]
        exact ih (j + 1) (k + 1)
      | some a =>
        rw [hb] at hhere
        obtain ⟨a', ha', hg⟩ := Option.map_eq_some_iff.mp hhere
        rw [ha']
        simpa using hg

/-- One more character at the end changes no search whose reader does not see it. -/
theorem search_append {α : Type} {read : Text → Option α} {x : Char}
    (hread : ∀ t, read (t ++ [x]) = read t) (k : Nat) (t : Text) :
    search read k (t ++ [x]) = search read k t := by
  induction t generalizing k with
  | nil =>
    have hone : read [x] = read [] := hread []
    simp only [List.nil_append, search, hone]
    cases read [] <;> rfl
  | cons c t ih =>
    have hhere := hread (c :: t)
    rw [List.cons_append] at hhere ⊢
    rw [search, search, hhere, ih]

theorem strip_append_blank {x : Char} (hx : isBlank x = true) (t : Text) :
    strip (t ++ [x]) = strip t := by
  have hright : ∀ u, stripRight (u ++ [x]) = stripRight u := by
    intro u
    simp [stripRight, hx]
  have hleft : stripLeft (t ++ [x]) = if (stripLeft t).isEmpty then [] else stripLeft t ++ [x] := by
    simp only [stripLeft, List.dropWhile_append]
    simp [hx]
  rw [strip, strip, hleft]
  split
  case isTrue he => rw [List.isEmpty_iff.mp he]
  case isFalse => exact hright _

theorem startsWith_append {x y : Char} (hxy : x ≠ y) (t w : Text) :
    startsWith (t ++ [x]) (w ++ [y]) = startsWith t (w ++ [y]) := by
  have hiff : ∀ u, startsWith u (w ++ [y]) = true ↔ ∃ r, u = w ++ [y] ++ r := by
    intro u
    simp only [startsWith, Option.isSome_iff_exists, after_eq_some_iff]
  rw [Bool.eq_iff_iff, hiff, hiff]
  constructor
  · rintro ⟨r, hr⟩
    rcases List.eq_nil_or_concat r with rfl | ⟨r, z, rfl⟩
    · rw [List.append_nil] at hr
      exact absurd (List.cons.inj (List.append_inj' hr rfl).2).1 hxy
    · rw [List.concat_eq_append, ← List.append_assoc] at hr
      exact ⟨r, (List.append_inj' hr rfl).1⟩
  · rintro ⟨r, rfl⟩
    exact ⟨r ++ [x], by simp⟩

end LuaIndex.Text
