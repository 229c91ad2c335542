import LuaIndex.Text.Basic

namespace LuaIndex.Text

/-- The lines of a text, without their line feeds. -/
def lines : Text → List Text
  | [] => [[]]
  | c :: rest =>
    if c = '\n' then [] :: lines rest
    else match lines rest with
      | [] => [[c]]
      | l :: ls => (c :: l) :: ls

/-- Lines put together again, with a line feed between each two. -/
def unlines : List Text → Text
  | [] => []
  | [l] => l
  | l :: ls => l ++ '\n' :: unlines ls

theorem lines_ne_nil (t : Text) : lines t ≠ [] := by
  induction t with
  | nil => simp [lines]
  | cons c rest ih =>
    by_cases h : c = '\n'
    · simp [lines, h]
    · simp only [lines, h, if_false]
      cases lines rest <;> simp

theorem unlines_cons (l : Text) {ls : List Text} (h : ls ≠ []) :
    unlines (l :: ls) = l ++ '\n' :: unlines ls := by
  cases ls with
  | nil => exact absurd rfl h
  | cons m ms => rfl

theorem unlines_lines (t : Text) : unlines (lines t) = t := by
  induction t with
  | nil => rfl
  | cons c rest ih =>
    by_cases h : c = '\n'
    · simp [lines, h, unlines_cons _ (lines_ne_nil rest), ih]
    · simp only [lines, h, if_false]
      cases hl : lines rest with
      | nil => exact absurd hl (lines_ne_nil rest)
      | cons l ls =>
        rw [hl] at ih
        cases ls with
        | nil => simpa [unlines] using ih
        | cons m ms => simpa [unlines] using ih

/-- Line breaks brought to one form: a carriage return ends a line, alone or before a line feed. -/
def plainNewlines : Text → Text
  | [] => []
  | '\r' :: '\n' :: rest => '\n' :: plainNewlines rest
  | c :: rest => (if c = '\r' then '\n' else c) :: plainNewlines rest

end LuaIndex.Text
