import LuaIndex.Text.Classes

namespace LuaIndex.Text

/-- White space that may surround a number. The separator controls are not among it. -/
def isNumberBlank (c : Char) : Bool :=
  isBlank c && !(28 ≤ c.toNat && c.toNat ≤ 31)

/-- The value of a digit or of a letter that stands for a larger one. -/
def baseDigit? (c : Char) : Option Nat :=
  match digitValue c with
  | some n => some n
  | none =>
    if 'a' ≤ c && c ≤ 'z' then some (c.toNat - 87)
    else if 'A' ≤ c && c ≤ 'Z' then some (c.toNat - 55)
    else none

/-- The value of digits, with an underscore allowed between each two; `n` is the value of those
before, and `open_` tells that a digit must follow. -/
def readDigits? (base n : Nat) (open_ : Bool) : Text → Option Nat
  | [] => if open_ then none else some n
  | c :: rest =>
    if c = '_' then if open_ then none else readDigits? base n true rest
    else
      match baseDigit? c with
      | some d => if d < base then readDigits? base (n * base + d) false rest else none
      | none => none

/-- The letter that may stand after a zero to name the base. -/
def baseLetter : Nat → Option Char
  | 2 => some 'b'
  | 8 => some 'o'
  | 16 => some 'x'
  | _ => none

/-- The digits without the mark of their base. An underscore may follow the mark. -/
def dropBaseMark (base : Nat) : Text → Text
  | '0' :: c :: rest =>
    if (baseLetter base) = some c.toLower then
      match rest with
      | '_' :: rest' => rest'
      | _ => rest
    else '0' :: c :: rest
  | t => t

/-- The most decimal digits that a number may have. -/
def digitLimit : Nat := 4300

/-- The number that a text stands for in a base. -/
def readInt? (base : Nat) (t : Text) : Option Int :=
  let body := ((t.dropWhile isNumberBlank).reverse.dropWhile isNumberBlank).reverse
  let (negative, digits) : Bool × Text :=
    match body with
    | '-' :: rest => (true, rest)
    | '+' :: rest => (false, rest)
    | _ => (false, body)
  let digits := dropBaseMark base digits
  if base = 10 && digitLimit < (digits.filter (· ≠ '_')).length then none
  else (readDigits? base 0 true digits).map fun n => if negative then -(n : Int) else n

end LuaIndex.Text
