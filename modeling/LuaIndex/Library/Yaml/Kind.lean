import LuaIndex.Library.Yaml.Input

namespace LuaIndex.Yaml

inductive Kind where
  | null
  | bool
  | int
  | float
  | binary
  | timestamp
  | orderedMap
  | pairs
  | set
  | text
  | sequence
  | mapping
  | merge
  | default
  | unknown
deriving DecidableEq

namespace Kind

def stem : Text :=
  "tag:yaml.org,2002:".toList

/-- The kind that a full tag names. -/
def ofTag (tag : Text) : Kind :=
  match (Text.after stem tag).map String.ofList with
  | some "null" => null
  | some "bool" => bool
  | some "int" => int
  | some "float" => float
  | some "binary" => binary
  | some "timestamp" => timestamp
  | some "omap" => orderedMap
  | some "pairs" => pairs
  | some "set" => set
  | some "str" => text
  | some "seq" => sequence
  | some "map" => mapping
  | some "merge" => merge
  | some "value" => default
  | _ => unknown

def dropSign : Text → Text
  | '-' :: rest => rest
  | '+' :: rest => rest
  | t => t

def isDigitOrLow (c : Char) : Bool :=
  c.isDigit || c == '_'

def nullWords : List String :=
  ["", "~", "null", "Null", "NULL"]

def boolWords : List (String × Bool) :=
  [("yes", true), ("no", false), ("true", true), ("false", false), ("on", true), ("off", false)]

/-- A word in lower case, with a capital, or in capitals. -/
def spellings (word : String) : List Text :=
  let lower := word.toList
  let upper := lower.map Char.toUpper
  [lower, upper.take 1 ++ lower.drop 1, upper]

def isBool (t : Text) : Bool :=
  boolWords.any fun w => (spellings w.1).contains t

/-- Parts after the first of a number to the base sixty: a colon and one or two digits, the first of
two below six. Gives what follows. -/
def sixties? : (fuel : Nat) → Text → Option Text
  | 0, _ => none
  | fuel + 1, t =>
    match t with
    | ':' :: a :: b :: rest =>
      if '0' ≤ a && a ≤ '5' && b.isDigit then go fuel rest
      else if a.isDigit then go fuel (b :: rest) else none
    | [':', a] => if a.isDigit then some [] else none
    | _ => none
where
  go (fuel : Nat) (rest : Text) : Option Text :=
    match rest with
    | ':' :: _ => sixties? fuel rest
    | _ => some rest

def isInt (t : Text) : Bool :=
  let t := dropSign t
  match t with
  | '0' :: 'b' :: rest => !rest.isEmpty && rest.all fun c => c == '0' || c == '1' || c == '_'
  | '0' :: 'x' :: rest => !rest.isEmpty && rest.all fun c =>
      c.isDigit || ('a' ≤ c && c ≤ 'f') || ('A' ≤ c && c ≤ 'F') || c == '_'
  | '0' :: rest => rest.all fun c => ('0' ≤ c && c ≤ '7') || c == '_'
  | c :: rest =>
    c.isDigit &&
      match rest.dropWhile isDigitOrLow with
      | [] => true
      | tail => sixties? (tail.length + 1) tail == some []
  | [] => false

/-- An exponent with its sign, or nothing. -/
def isExponent : Text → Bool
  | [] => true
  | e :: s :: d :: rest =>
    (e == 'e' || e == 'E') && (s == '+' || s == '-') && d.isDigit && rest.all Char.isDigit
  | _ => false

def isFloat (t : Text) : Bool :=
  let u := dropSign t
  let whole := u.takeWhile isDigitOrLow
  let rest := u.dropWhile isDigitOrLow
  let special := ["inf", "Inf", "INF"].any fun w => u = '.' :: w.toList
  let notNumber := ["nan", "NaN", "NAN"].any fun w => t = '.' :: w.toList
  let decimal := match whole, rest with
    | c :: _, '.' :: tail => c.isDigit && isExponent (tail.dropWhile isDigitOrLow)
    | _, _ => false
  let fraction := match t with
    | '.' :: d :: tail => d.isDigit && isExponent (tail.dropWhile isDigitOrLow)
    | _ => false
  let sixty := match whole with
    | c :: _ => c.isDigit && match sixties? (rest.length + 1) rest with
      | some ('.' :: tail) => tail.all isDigitOrLow
      | _ => false
    | [] => false
  special || notNumber || decimal || fraction || sixty

/-- Between `least` and `most` digits and what follows them. -/
def digits? (least most : Nat) (t : Text) : Option (Nat × Text) :=
  let ds := (t.takeWhile Char.isDigit).take most
  if ds.length < least then none
  else some (ds.foldl (fun n c => n * 10 + (c.toNat - 48)) 0, t.drop ds.length)

/-- A date, and the time of day with its distance from the zero meridian in minutes, if there. -/
structure Moment where
  year : Nat
  month : Nat
  day : Nat
  time : Option (Nat × Nat × Nat × Nat)
  /-- Month and day have two digits each. -/
  padded : Bool

/-- What may follow the seconds: a fraction and a time zone. -/
def zone? (t : Text) : Option Nat :=
  let t := match t with
    | '.' :: rest => rest.dropWhile Char.isDigit
    | _ => t
  if t.isEmpty then some 0
  else match t.dropWhile isSpaceOrTab with
    | ['Z'] => some 0
    | sign :: rest =>
      if sign == '-' || sign == '+' then
        match digits? 1 2 rest with
        | some (hours, []) => some (hours * 60)
        | some (hours, ':' :: rest) =>
          match digits? 2 2 rest with
          | some (minutes, []) => some (hours * 60 + minutes)
          | _ => none
        | _ => none
      else none
    | [] => none

def moment? (t : Text) : Option Moment := do
  let (year, rest) ← digits? 4 4 t
  let rest ← Text.after ['-'] rest
  let (month, rest') ← digits? 1 2 rest
  let wideMonth := rest.length - rest'.length = 2
  let rest ← Text.after ['-'] rest'
  let (day, rest') ← digits? 1 2 rest
  let wideDay := rest.length - rest'.length = 2
  if rest'.isEmpty then return ⟨year, month, day, none, wideMonth && wideDay⟩
  else
    let rest ← match rest' with
      | c :: rest =>
        if c == 'T' || c == 't' then some rest
        else if isSpaceOrTab c then some (rest.dropWhile isSpaceOrTab)
        else none
      | [] => none
    let (hour, rest) ← digits? 1 2 rest
    let rest ← Text.after [':'] rest
    let (minute, rest) ← digits? 2 2 rest
    let rest ← Text.after [':'] rest
    let (second, rest) ← digits? 2 2 rest
    let zone ← zone? rest
    return ⟨year, month, day, some (hour, minute, second, zone), wideMonth && wideDay⟩

/-- A date of two-digit parts, or any date with a time. -/
def isTimestamp (t : Text) : Bool :=
  match moment? t with
  | some m => m.time.isSome || m.padded
  | none => false

/-- A text without one line feed at its end. -/
def chopNewline (t : Text) : Text :=
  if t.getLast? = some '\n' then t.dropLast else t

/-- The kind that the text of a plain scalar shows. A lone mark of a tag, an anchor or an alias is no
value. -/
def ofPlain (t : Text) : Kind :=
  let u := chopNewline t
  if isBool u then bool
  else if isFloat u then float
  else if isInt u then int
  else if u = "<<".toList then merge
  else if nullWords.any fun w => t = w.toList || (t ≠ ['\n'] && u = w.toList) then null
  else if isTimestamp u then timestamp
  else if u = ['='] then default
  else if u = ['!'] || u = ['&'] || u = ['*'] then unknown
  else text

/-- Kinds whose value is made from a text. -/
def isScalar : Kind → Bool
  | null | bool | int | float | binary | timestamp | text => true
  | _ => false

/-- Kinds whose value is made from other nodes. -/
def isCollection : Kind → Bool
  | sequence | mapping | set | orderedMap | pairs => true
  | _ => false

end Kind

end LuaIndex.Yaml
