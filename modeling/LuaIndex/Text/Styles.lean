import LuaIndex.Text.Basic

namespace LuaIndex.Text

def escapeChar : Char :=
  Char.ofNat 27

/-- A digit, or a character that separates or leads parameters. -/
def isStyleParameter (c : Char) : Bool :=
  '0' ≤ c && c ≤ '?'

/-- A space, or a mark between the parameters and the final character. -/
def isStyleMark (c : Char) : Bool :=
  ' ' ≤ c && c ≤ '/'

def isStyleFinal (c : Char) : Bool :=
  '@' ≤ c && c ≤ '~'

/-- The length of the sequence that a text starts with, zero if it starts with none. -/
def styleLength : Text → Nat
  | e :: '[' :: rest =>
    if e = escapeChar then
      let tail := (rest.dropWhile isStyleParameter).dropWhile isStyleMark
      match tail with
      | c :: _ => if isStyleFinal c then rest.length - tail.length + 3 else 0
      | [] => 0
    else 0
  | _ => 0

/-- As `withoutStyles`, with the first `skip` characters left out. -/
def withoutStylesFrom (skip : Nat) : Text → Text
  | [] => []
  | c :: rest =>
    match skip with
    | n + 1 => withoutStylesFrom n rest
    | 0 =>
      match styleLength (c :: rest) with
      | n + 1 => withoutStylesFrom n rest
      | 0 => c :: withoutStylesFrom 0 rest

/-- The text without its sequences. -/
def withoutStyles (t : Text) : Text :=
  withoutStylesFrom 0 t

theorem styleLength_of_ne {c : Char} (hc : c ≠ escapeChar) (t : Text) : styleLength (c :: t) = 0 := by
  unfold styleLength
  split
  case h_1 e rest h =>
    obtain ⟨rfl, -⟩ := List.cons.inj h
    rw [if_neg hc]
  case h_2 => rfl

theorem withoutStyles_append {s : Text} (h : escapeChar ∉ s) (t : Text) :
    withoutStyles (s ++ t) = s ++ withoutStyles t := by
  unfold withoutStyles
  induction s with
  | nil => rfl
  | cons c s ih =>
    rw [List.mem_cons, not_or] at h
    rw [List.cons_append, withoutStylesFrom, styleLength_of_ne (Ne.symm h.1), ih h.2, List.cons_append]

/-- A text without the escape character keeps all it has. -/
theorem withoutStyles_of_not_mem {t : Text} (h : escapeChar ∉ t) : withoutStyles t = t := by
  simpa [withoutStyles, withoutStylesFrom] using withoutStyles_append h []

end LuaIndex.Text
