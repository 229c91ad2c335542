import LuaIndex.Number.Binary64
import LuaIndex.Text.Quoted
import LuaIndex.Table

namespace LuaIndex

inductive Json where
  | null
  | bool (value : Bool)
  | int (value : Int)
  | float (value : Binary64)
  | text (codes : List Nat)
  | array (items : List Json)
  | object (members : List (List Nat × Json))
deriving Inhabited

namespace Json

def codes (t : Text) : List Nat :=
  t.map Char.toNat

/-- The text of code points; half of a pair reads as the replacement character. -/
def ofCodes (cs : List Nat) : Text :=
  cs.map fun n => if 0xD800 ≤ n && n < 0xE000 then Char.ofNat 0xFFFD else Char.ofNat n

def ofText (t : Text) : Json :=
  .text (codes t)

def ofString (s : String) : Json :=
  ofText s.toList

/-- An object with its members in order. -/
def record (members : List (String × Json)) : Json :=
  .object (members.map fun m => (codes m.1.toList, m.2))

/-- An object with one member for each entry. -/
def ofTable {α : Type} (f : α → Json) (t : Table α) : Json :=
  .object (t.map fun e => (codes e.1, f e.2))

def ofList {α : Type} (f : α → Json) (l : List α) : Json :=
  .array (l.map f)

/-- An escape of four hexadecimal digits. -/
def unicodeEscape (n : Nat) : Text :=
  '\\' :: 'u' :: Text.hex 4 n

/-- A code point inside quotes; all but printable ASCII is escaped. -/
def escapeCode (n : Nat) : Text :=
  if n = 34 then ['\\', '"']
  else if n = 92 then ['\\', '\\']
  else if n = 10 then ['\\', 'n']
  else if n = 13 then ['\\', 'r']
  else if n = 9 then ['\\', 't']
  else if n = 12 then ['\\', 'f']
  else if n = 8 then ['\\', 'b']
  else if 32 ≤ n && n ≤ 126 then [Char.ofNat n]
  else if n < 0x10000 then unicodeEscape n
  else unicodeEscape (0xD800 + (n - 0x10000) / 1024) ++ unicodeEscape (0xDC00 + (n - 0x10000) % 1024)

def quoteCodes (cs : List Nat) : Text :=
  '"' :: cs.flatMap escapeCode ++ ['"']

def floatText : Binary64 → Text
  | .infinite negative => if negative then "-Infinity".toList else "Infinity".toList
  | .nan => "NaN".toList
  | x => x.text

/-- A new line with two spaces for each level, before some text. -/
def newLine (level : Nat) (rest : Text) : Text :=
  '\n' :: (List.replicate (2 * level) ' ' ++ rest)

mutual

/-- The text of a value at a level of nesting, each item on a line of its own, before some text. -/
def pretty (level : Nat) : Json → Text → Text
  | .null, rest => "null".toList ++ rest
  | .bool b, rest => (if b then "true".toList else "false".toList) ++ rest
  | .int n, rest => Text.ofInt n ++ rest
  | .float x, rest => floatText x ++ rest
  | .text cs, rest => quoteCodes cs ++ rest
  | .array [], rest => '[' :: ']' :: rest
  | .array (j :: js), rest =>
    '[' :: newLine (level + 1) (pretty (level + 1) j
      (prettyItems (level + 1) js (newLine level (']' :: rest))))
  | .object [], rest => '\x7b' :: '\x7d' :: rest
  | .object ((k, j) :: ms), rest =>
    '\x7b' :: newLine (level + 1) (quoteCodes k ++ ':' :: ' ' :: pretty (level + 1) j
      (prettyMembers (level + 1) ms (newLine level ('\x7d' :: rest))))

/-- The items after the first. -/
def prettyItems (level : Nat) : List Json → Text → Text
  | [], rest => rest
  | j :: js, rest => ',' :: newLine level (pretty level j (prettyItems level js rest))

/-- The members after the first. -/
def prettyMembers (level : Nat) : List (List Nat × Json) → Text → Text
  | [], rest => rest
  | (k, j) :: ms, rest =>
    ',' :: newLine level (quoteCodes k ++ ':' :: ' ' :: pretty level j (prettyMembers level ms rest))

end

/-- The text of a value. -/
def render (j : Json) : Text :=
  j.pretty 0 []

end Json

end LuaIndex
