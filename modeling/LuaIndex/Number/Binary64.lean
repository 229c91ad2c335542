import LuaIndex.Text.Basic

namespace LuaIndex

/-- `finite negative m e` is `m * 2 ^ e`, with a minus sign if `negative` is set. -/
inductive Binary64 where
  | finite (negative : Bool) (mantissa : Nat) (exponent : Int)
  | infinite (negative : Bool)
  | nan
deriving DecidableEq

namespace Binary64

def leastExponent : Int := -1074

def mostExponent : Int := 971

/-- `n / d` as numerator and denominator times a power of `base`. -/
def scale (base n d : Nat) (e : Int) : Nat × Nat :=
  if 0 ≤ e then (n * base.pow e.toNat, d) else (n, d * base.pow (-e).toNat)

/-- The nearest whole number to `n / d`, a half going to the even one. -/
def roundHalfEven (n d : Nat) : Nat :=
  let q := n / d
  let twice := 2 * (n % d)
  if twice < d then q
  else if d < twice then q + 1
  else if q % 2 = 0 then q else q + 1

/-- The largest `k` with `2 ^ k ≤ n / d`. -/
def floorLog2 (n d : Nat) : Int :=
  let k : Int := (n.log2 : Int) - d.log2
  let (a, b) := scale 2 n d (-k)
  if b ≤ a then k else k - 1

/-- The nearest number of the format to `n / d`. -/
def ofRatio (negative : Bool) (n d : Nat) : Binary64 :=
  if n = 0 then .finite negative 0 0
  else
    let e := max leastExponent (floorLog2 n d - 52)
    let (a, b) := scale 2 n d (-e)
    let m := roundHalfEven a b
    let (m, e) := if m = Nat.pow 2 53 then (Nat.pow 2 52, e + 1) else (m, e)
    if mostExponent < e then .infinite negative else .finite negative m e

/-- The nearest number of the format to `digits * 10 ^ e`. Beyond four hundred places only the size
counts. -/
def ofDecimal (negative : Bool) (digits : Nat) (e : Int) : Binary64 :=
  let places : Int := (Nat.toDigits 10 digits).length + e
  if digits = 0 || places < -400 then .finite negative 0 0
  else if 400 < places then .infinite negative
  else
    let (n, d) := scale 10 digits 1 e
    ofRatio negative n d

/-- The sum with a whole number. -/
def addInt (x : Binary64) (k : Int) : Binary64 :=
  match x with
  | .finite negative m e =>
    let (n, d) := scale 2 m 1 e
    let total : Int := (if negative then -(n : Int) else n) + k * d
    if total = 0 then .finite false 0 0 else ofRatio (total < 0) total.natAbs d
  | y => y

/-- `n / d` lies among the reals that are rounded to `m * 2 ^ e`. -/
def reads (m : Nat) (e : Int) (n d : Nat) : Bool :=
  match ofRatio false n d with
  | .finite _ m' e' =>
    let (a, b) := scale 2 m 1 e
    let (a', b') := scale 2 m' 1 e'
    a * b' == a' * b
  | _ => false

/-- The largest `k` with `10 ^ k ≤ n / d`, looked for from `k` down. -/
def floorLog10 (n d : Nat) : (fuel : Nat) → Int → Int
  | 0, k => k
  | fuel + 1, k =>
    let (a, b) := scale 10 n d (-k)
    if b ≤ a then k else floorLog10 n d fuel (k - 1)

/-- The digits of the shortest decimal that reads back, and its exponent: the first count of digits
at which a neighbour of the value reads back; of two the nearer, and of two as near the even one. -/
def shortestFrom (m : Nat) (e : Int) (n d : Nat) (top : Int) : (fuel count : Nat) → Nat × Int
  | 0, _ => (0, 0)
  | fuel + 1, count =>
    let place : Int := top - count + 1
    let (a, b) := scale 10 n d (-place)
    let low := a / b
    let fits (k : Nat) : Bool :=
      let (p, q) := scale 10 k 1 place
      reads m e p q
    let lowFits := fits low
    let highFits := fits (low + 1)
    if lowFits && highFits then (roundHalfEven a b, place)
    else if lowFits then (low, place)
    else if highFits then (low + 1, place)
    else shortestFrom m e n d top fuel (count + 1)

/-- The digits of a positive number and the place of the point among them. -/
def shortest (m : Nat) (e : Int) : Text × Int :=
  let (n, d) := scale 2 m 1 e
  let top := floorLog10 n d 800 400
  let (digits, place) := shortestFrom m e n d top 18 1
  let text := Nat.toDigits 10 digits
  let trimmed := (text.reverse.dropWhile (· = '0')).reverse
  (trimmed, text.length + place)

/-- Digits with the point at a place: as they are from a ten-thousandth up to sixteen places, with an
exponent of at least two digits beyond. -/
def layOut (digits : Text) (point : Int) : Text :=
  if -4 < point && point ≤ 16 then
    if point ≤ 0 then "0.".toList ++ List.replicate (-point).toNat '0' ++ digits
    else if (digits.length : Int) ≤ point then
      digits ++ List.replicate (point - digits.length).toNat '0' ++ ".0".toList
    else digits.take point.toNat ++ '.' :: digits.drop point.toNat
  else
    let e := point - 1
    let size := Text.ofNat e.natAbs
    digits.take 1 ++ (if digits.length ≤ 1 then [] else '.' :: digits.drop 1) ++
      (if e < 0 then "e-".toList else "e+".toList) ++
      (if size.length < 2 then '0' :: size else size)

/-- The shortest text that reads back as the number. -/
def text : Binary64 → Text
  | .finite negative m e =>
    (if negative then ['-'] else []) ++
      (if m = 0 then "0.0".toList
      else
        let (digits, point) := shortest m e
        layOut digits point)
  | .infinite negative => if negative then "-inf".toList else "inf".toList
  | .nan => "nan".toList

end Binary64

end LuaIndex
