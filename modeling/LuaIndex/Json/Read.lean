import LuaIndex.Json.Basic
import LuaIndex.Text.Integer

namespace LuaIndex

/-- What is wrong with a text that is no JSON. -/
inductive JsonProblem where
  | value
  | extraData
  | propertyName
  | comma
  | colon
  | unterminated
  | controlCharacter
  | escape
  | unicodeEscape
  | byteOrderMark
deriving DecidableEq

/-- Why a text cannot be read: a problem at an offset, a number with too many digits, or an array or
object inside too many others. -/
inductive JsonError where
  | at (problem : JsonProblem) (offset : Nat)
  | longNumber (digits : Nat)
  | deepArray
  | deepObject
deriving DecidableEq

namespace JsonProblem

def description : JsonProblem → Text
  | value => "Expecting value".toList
  | extraData => "Extra data".toList
  | propertyName => "Expecting property name enclosed in double quotes".toList
  | comma => "Expecting ',' delimiter".toList
  | colon => "Expecting ':' delimiter".toList
  | unterminated => "Unterminated string starting at".toList
  | controlCharacter => "Invalid control character at".toList
  | escape => "Invalid \\escape".toList
  | unicodeEscape => "Invalid \\uXXXX escape".toList
  | byteOrderMark => "Unexpected UTF-8 BOM (decode using utf-8-sig)".toList

end JsonProblem

namespace JsonError

/-- The message for a text, with line and column counted from one. -/
def message (t : Text) : JsonError → Text
  | .at problem offset =>
    let before := t.take offset
    let line := before.count '\n' + 1
    let column := (before.reverse.takeWhile (· ≠ '\n')).length + 1
    problem.description ++ ": line ".toList ++ Text.ofNat line ++ " column ".toList ++
      Text.ofNat column ++ " (char ".toList ++ Text.ofNat offset ++ ")".toList
  | .longNumber digits =>
    "Exceeds the limit (4300 digits) for integer string conversion: value has ".toList ++
      Text.ofNat digits ++ " digits; use sys.set_int_max_str_digits() to increase the limit".toList
  | .deepArray =>
    ("maximum recursion depth exceeded while decoding a JSON array from a unicode string").toList
  | .deepObject =>
    ("maximum recursion depth exceeded while decoding a JSON object from a unicode string").toList

end JsonError

namespace Json

/-- Characters still to be read and the offset of the first of them. -/
structure Rest where
  text : Text
  offset : Nat

namespace Rest

def drop (r : Rest) (n : Nat) : Rest :=
  ⟨r.text.drop n, r.offset + n⟩

def isSpace (c : Char) : Bool :=
  c == ' ' || c == '\t' || c == '\n' || c == '\r'

def skipSpaces (r : Rest) : Rest :=
  r.drop (r.text.takeWhile isSpace).length

end Rest

def hexDigit? (c : Char) : Option Nat :=
  if c.isDigit then some (c.toNat - 48)
  else if 'a' ≤ c && c ≤ 'f' then some (c.toNat - 87)
  else if 'A' ≤ c && c ≤ 'F' then some (c.toNat - 55)
  else none

/-- Four hexadecimal digits. -/
def hex4? : Text → Option Nat
  | a :: b :: c :: d :: _ => do
    return (((← hexDigit? a) * 16 + (← hexDigit? b)) * 16 + (← hexDigit? c)) * 16 + (← hexDigit? d)
  | _ => none

/-- What a backslash and a character stand for. -/
def shortEscape? (c : Char) : Option Nat :=
  [('"', 34), ('\\', 92), ('/', 47), ('b', 8), ('f', 12), ('n', 10), ('r', 13), ('t', 9)].lookup c

def isHighHalf (n : Nat) : Bool :=
  0xD800 ≤ n && n < 0xDC00

def isLowHalf (n : Nat) : Bool :=
  0xDC00 ≤ n && n < 0xE000

/-- The rest of a string up to its closing quote; `opening` is the offset of the opening one. -/
def string (opening : Nat) : (fuel : Nat) → Rest → Except JsonError (List Nat × Rest)
  | 0, _ => .error (.at .unterminated opening)
  | fuel + 1, r =>
    match r.text with
    | [] => .error (.at .unterminated opening)
    | '"' :: _ => .ok ([], r.drop 1)
    | '\\' :: rest =>
      match rest with
      | [] => .error (.at .unterminated opening)
      | 'u' :: digits =>
        -- the four digits may not end the text
        if (digits.drop 4).isEmpty then .error (.at .unicodeEscape (r.offset + 1))
        else
          match hex4? digits with
          | none => .error (.at .unicodeEscape (r.offset + 1))
          | some n =>
            match digits.drop 4 with
            | '\\' :: 'u' :: more =>
              if isHighHalf n && !(more.drop 4).isEmpty then
                match hex4? more with
                | none => .error (.at .unicodeEscape (r.offset + 7))
                | some k =>
                  if isLowHalf k then do
                    let (cs, r) ← string opening fuel (r.drop 12)
                    return ((0x10000 + (n - 0xD800) * 1024 + (k - 0xDC00)) :: cs, r)
                  else do
                    let (cs, r) ← string opening fuel (r.drop 6)
                    return (n :: cs, r)
              else do
                let (cs, r) ← string opening fuel (r.drop 6)
                return (n :: cs, r)
            | _ => do
              let (cs, r) ← string opening fuel (r.drop 6)
              return (n :: cs, r)
      | c :: _ =>
        match shortEscape? c with
        | none => .error (.at .escape r.offset)
        | some n => do
          let (cs, r) ← string opening fuel (r.drop 2)
          return (n :: cs, r)
    | c :: _ =>
      if c.toNat < 32 then .error (.at .controlCharacter r.offset)
      else do
        let (cs, r) ← string opening fuel (r.drop 1)
        return (c.toNat :: cs, r)

/-- Words that are values. -/
def words : List (String × Json) :=
  [("null", .null), ("true", .bool true), ("false", .bool false), ("NaN", .float .nan),
    ("Infinity", .float (.infinite false)), ("-Infinity", .float (.infinite true))]

def digitsValue (t : Text) : Nat :=
  t.foldl (fun n c => n * 10 + (c.toNat - 48)) 0

/-- A fraction: a point and digits. -/
def fraction (t : Text) : Text :=
  match t with
  | '.' :: rest => rest.takeWhile Char.isDigit
  | _ => []

/-- An exponent: its sign, its digits, and the length of its text. -/
def exponent (t : Text) : Bool × Text × Nat :=
  match t with
  | e :: rest =>
    if e == 'e' || e == 'E' then
      let (negative, tail, n) : Bool × Text × Nat := match rest with
        | '-' :: tail => (true, tail, 2)
        | '+' :: tail => (false, tail, 2)
        | _ => (false, rest, 1)
      let ds := tail.takeWhile Char.isDigit
      (negative, ds, if ds.isEmpty then 0 else n + ds.length)
    else (false, [], 0)
  | [] => (false, [], 0)

/-- A number, if one starts here. -/
def number? (r : Rest) : Option (Except JsonError (Json × Rest)) :=
  let negative := r.text.head? = some '-'
  let body := if negative then r.text.drop 1 else r.text
  let whole := match body with
    | '0' :: _ => ['0']
    | _ => body.takeWhile Char.isDigit
  if whole.isEmpty then none
  else
    let rest := body.drop whole.length
    let part := fraction rest
    let point := if part.isEmpty then 0 else part.length + 1
    let (small, ds, size) := exponent (rest.drop point)
    let after := r.drop ((if negative then 1 else 0) + whole.length + point + size)
    if part.isEmpty && size = 0 then
      if Text.digitLimit < whole.length then some (.error (.longNumber whole.length))
      else
        let n : Int := digitsValue whole
        some (.ok (.int (if negative then -n else n), after))
    else
      let e : Int := digitsValue ds
      some (.ok (.float (.ofDecimal negative (digitsValue (whole ++ part))
        ((if small then -e else e) - part.length)), after))

/-- Puts a member into an object; a known key keeps its place. -/
def putMember (key : List Nat) (value : Json) : List (List Nat × Json) → List (List Nat × Json)
  | [] => [(key, value)]
  | (k, v) :: rest => if k = key then (k, value) :: rest else (k, v) :: putMember key value rest

/-- How deeply arrays and objects may be nested. -/
def depthLimit : Nat := 979

mutual

/-- The value that starts here; `levels` is how many arrays and objects may be nested in it. -/
def value (levels : Nat) : (fuel : Nat) → Rest → Except JsonError (Json × Rest)
  | 0, r => .error (.at .value r.offset)
  | fuel + 1, r =>
    match r.text with
    | '"' :: _ => do
      let (cs, r) ← string r.offset fuel (r.drop 1)
      return (.text cs, r)
    | '\x7b' :: _ =>
      if levels = 0 then .error .deepObject
      else
        let r := (r.drop 1).skipSpaces
        if r.text.head? = some '\x7d' then .ok (.object [], r.drop 1)
        else members (levels - 1) [] fuel r
    | '[' :: _ =>
      if levels = 0 then .error .deepArray
      else
        let r := (r.drop 1).skipSpaces
        if r.text.head? = some ']' then .ok (.array [], r.drop 1) else items (levels - 1) [] fuel r
    | _ =>
      match words.find? fun w => Text.startsWith r.text w.1.toList with
      | some w => .ok (w.2, r.drop w.1.length)
      | none => (number? r).getD (.error (.at .value r.offset))
termination_by structural fuel => fuel

/-- The items of an array from here on, after those read before, newest first. -/
def items (levels : Nat) (done : List Json) : (fuel : Nat) → Rest → Except JsonError (Json × Rest)
  | 0, r => .error (.at .value r.offset)
  | fuel + 1, r => do
    let (j, r) ← value levels fuel r
    let r := r.skipSpaces
    match r.text with
    | ']' :: _ => return (.array (j :: done).reverse, r.drop 1)
    | ',' :: _ => items levels (j :: done) fuel (r.drop 1).skipSpaces
    | _ => .error (.at .comma r.offset)
termination_by structural fuel => fuel

/-- The members of an object from here on, after those read before. -/
def members (levels : Nat) (done : List (List Nat × Json)) :
    (fuel : Nat) → Rest → Except JsonError (Json × Rest)
  | 0, r => .error (.at .value r.offset)
  | fuel + 1, r =>
    match r.text with
    | '"' :: _ => do
      let (key, r) ← string r.offset fuel (r.drop 1)
      let r := r.skipSpaces
      match r.text with
      | ':' :: _ =>
        let (j, r) ← value levels fuel (r.drop 1).skipSpaces
        let r := r.skipSpaces
        let all := putMember key j done
        match r.text with
        | '\x7d' :: _ => return (.object all, r.drop 1)
        | ',' :: _ => members levels all fuel (r.drop 1).skipSpaces
        | _ => .error (.at .comma r.offset)
      | _ => .error (.at .colon r.offset)
    | _ => .error (.at .propertyName r.offset)
termination_by structural fuel => fuel

end

/-- The value that a text stands for. -/
def read (t : Text) : Except JsonError Json :=
  if t.head? = some '\uFEFF' then .error (.at .byteOrderMark 0)
  else do
    let (j, r) ← value depthLimit (3 * t.length + 3) (Rest.skipSpaces ⟨t, 0⟩)
    let r := r.skipSpaces
    if r.text.isEmpty then .ok j else .error (.at .extraData r.offset)

end Json

end LuaIndex
