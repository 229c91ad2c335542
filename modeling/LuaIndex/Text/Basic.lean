namespace LuaIndex

abbrev Text := List Char

namespace Text

/-- What follows a given beginning, if the text has it. -/
def after : Text → Text → Option Text
  | [], t => some t
  | _ :: _, [] => none
  | w :: ws, c :: cs => if w = c then after ws cs else none

theorem after_eq_some_iff {w t r : Text} : after w t = some r ↔ t = w ++ r := by
  induction w generalizing t with
  | nil => simp [after, eq_comm]
  | cons a ws ih =>
    cases t with
    | nil => simp [after]
    | cons c cs =>
      by_cases h : a = c
      · simp [after, h, ih]
      · simp [after, h, Ne.symm h]

/-- The text starts with the given beginning. -/
def startsWith (t w : Text) : Bool :=
  (after w t).isSome

/-- The text ends with the given ending. -/
def endsWith (t w : Text) : Bool :=
  startsWith t.reverse w.reverse

/-- A number in decimal digits. -/
def ofNat (n : Nat) : Text :=
  Nat.toDigits 10 n

/-- A number in decimal digits, after a minus sign if it is negative. -/
def ofInt : Int → Text
  | .ofNat n => ofNat n
  | .negSucc n => '-' :: ofNat (n + 1)

/-- The first suffix that `read` accepts, with its distance from the start. -/
def search {α : Type} (read : Text → Option α) (column : Nat) : Text → Option (Nat × α)
  | [] => (read []).map (column, ·)
  | c :: rest =>
    match read (c :: rest) with
    | some a => some (column, a)
    | none => search read (column + 1) rest

/-- Code points compared one by one, a text before its continuations. -/
def le : Text → Text → Bool
  | [], _ => true
  | _ :: _, [] => false
  | a :: as, b :: bs => if a = b then le as bs else a.toNat < b.toNat

/-- The texts in increasing order. -/
def sorted (ts : List Text) : List Text :=
  ts.mergeSort le

/-- A code point lies in one of the ranges, both ends included. -/
def within (ranges : List (Nat × Nat)) (n : Nat) : Bool :=
  ranges.any fun r => r.1 ≤ n && n ≤ r.2

/-- The place in a text of the given length that a column stands for. -/
def clampColumn (length : Nat) (column : Int) : Nat :=
  if column < 0 then (length + column).toNat else min column.toNat length

/-- The part from a column to the end. -/
def dropTo (t : Text) (start : Int) : Text :=
  t.drop (clampColumn t.length start)

/-- The part before a column. -/
def takeTo (t : Text) (stop : Int) : Text :=
  t.take (clampColumn t.length stop)

/-- The part between two columns; nothing if the second comes first. -/
def cut (t : Text) (start stop : Int) : Text :=
  (t.take (clampColumn t.length stop)).drop (clampColumn t.length start)

end Text

end LuaIndex
