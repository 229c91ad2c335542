import LuaIndex.Library.Yaml.Kind
import LuaIndex.Library.Yaml.Input
import LuaIndex.Text.Integer
import LuaIndex.Text.Lower

namespace LuaIndex.Yaml

/-- The value of a scalar; what can be neither a setting nor compared with one is `other`. -/
inductive Value where
  | null
  | bool (b : Bool)
  | int (n : Int)
  | text (t : Text)
  | other
deriving DecidableEq

namespace Value

def isLeap (y : Nat) : Bool :=
  y % 4 == 0 && (y % 100 ≠ 0 || y % 400 == 0)

def daysIn (year month : Nat) : Nat :=
  if month = 2 then if isLeap year then 29 else 28
  else if month = 4 || month = 6 || month = 9 || month = 11 then 30 else 31

def isValidMoment (m : Kind.Moment) : Bool :=
  1 ≤ m.year && 1 ≤ m.month && m.month ≤ 12 && 1 ≤ m.day && m.day ≤ daysIn m.year m.month &&
    match m.time with
    | none => true
    | some (h, mi, s, zone) => h ≤ 23 && mi ≤ 59 && s ≤ 59 && zone < 1440

def ofMoment (t : Text) : Except Fault Value :=
  match Kind.moment? (Kind.chopNewline t) with
  | none => .error (.slip .notDate)
  | some m => if isValidMoment m then .ok .other else .error .invalid

def ofBool (t : Text) : Except Fault Value :=
  match Kind.boolWords.find? fun w => w.1.toList = Text.lower t with
  | some w => .ok (.bool w.2)
  | none => .error .invalid

def ofRead : Option Int → Except Fault Value
  | some n => .ok (.int n)
  | none => .error .invalid

/-- The parts between colons. -/
def colonParts : Text → List Text
  | [] => [[]]
  | c :: rest =>
    if c = ':' then [] :: colonParts rest
    else match colonParts rest with
      | [] => [[c]]
      | p :: ps => (c :: p) :: ps

/-- A number to the base sixty from its parts. -/
def sixtyValue? (parts : List Text) : Option Int :=
  parts.foldl (fun acc p => do
    let n ← acc
    let d ← Text.readInt? 10 p
    return n * 60 + d) (some 0)

def ofInt (t : Text) : Except Fault Value :=
  let t := t.filter (· ≠ '_')
  let negative := t.head? = some '-'
  let body := Kind.dropSign t
  let signed (n : Option Int) : Except Fault Value :=
    ofRead (n.map fun n => if negative then -n else n)
  match body with
  | [] => .error (.slip .emptyNumber)
  | ['0'] => .ok (.int 0)
  | '0' :: 'b' :: rest => signed (Text.readInt? 2 rest)
  | '0' :: 'x' :: rest => signed (Text.readInt? 16 rest)
  | '0' :: _ => signed (Text.readInt? 8 body)
  | _ => if ':' ∈ body then signed (sixtyValue? (colonParts body)) else signed (Text.readInt? 10 body)

/-- Digits, possibly a point and more digits, possibly an exponent. -/
def isDecimalText (t : Text) : Bool :=
  let whole := t.takeWhile Text.isDecimal
  let rest := t.dropWhile Text.isDecimal
  let (fraction, rest) : Text × Text := match rest with
    | '.' :: tail => (tail.takeWhile Text.isDecimal, tail.dropWhile Text.isDecimal)
    | _ => ([], rest)
  !(whole.isEmpty && fraction.isEmpty) &&
    match rest with
    | [] => true
    | e :: tail =>
      let ds := Kind.dropSign tail
      (e == 'e' || e == 'E') && !ds.isEmpty && ds.all Text.isDecimal

/-- A text that stands for a number with a fraction, or for none, or for one beyond all. -/
def isFloatText (t : Text) : Bool :=
  let body := ((t.dropWhile Text.isNumberBlank).reverse.dropWhile Text.isNumberBlank).reverse
  let u := Kind.dropSign body
  isDecimalText u || ["inf", "infinity", "nan"].any fun w => Text.lower u = w.toList

/-- The most parts to the base sixty whose weights the number format can hold: the weight of one more
would be `60 ^ 174`, which exceeds `2 ^ 1024`. -/
def sixtyLimit : Nat := 174

def ofFloat (t : Text) : Except Fault Value :=
  let t := Text.lower (t.filter (· ≠ '_'))
  let body := Kind.dropSign t
  let parts := colonParts body
  if t.isEmpty then .error (.slip .emptyNumber)
  else if body = ".inf".toList || body = ".nan".toList then .ok .other
  else if !parts.all isFloatText then .error .invalid
  else if sixtyLimit < parts.length then .error (.slip .hugeFloat)
  else .ok .other

/-- Sextets in groups of four, the last padded by equals signs; other characters are passed over.
`quad` counts the sextets of the group, `pads` the signs that follow. -/
def isBase64 (quad pads : Nat) : Text → Bool
  | [] => quad == 0
  | c :: rest =>
    if c = '=' then
      if 2 ≤ quad && 4 ≤ quad + pads + 1 then true
      else isBase64 quad (if 2 ≤ quad then pads + 1 else pads) rest
    else if c.isAlphanum || c == '+' || c == '/' then isBase64 ((quad + 1) % 4) 0 rest
    else isBase64 quad pads rest

/-- The value of a scalar of a kind. -/
def ofScalar (k : Kind) (t : Text) : Except Fault Value :=
  match k with
  | .null => .ok .null
  | .bool => ofBool t
  | .int => ofInt t
  | .float => ofFloat t
  | .binary => if t.all (·.toNat < 128) && isBase64 0 0 t then .ok .other else .error .invalid
  | .timestamp => ofMoment t
  | .text => .ok (.text t)
  | _ => .error .invalid

end Value

end LuaIndex.Yaml
