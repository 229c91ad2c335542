import LuaIndex.Host

namespace LuaIndex.Yaml

inductive Slip where
  /-- A number is asked for and no digit is there. -/
  | emptyNumber
  /-- A date is asked for and the text is none. -/
  | notDate
  /-- A character is named by a number of more than 31 bits. -/
  | hugeCode
  /-- A number to the base sixty has too many parts. -/
  | hugeFloat
  /-- Nodes are nested too deeply. -/
  | tooDeep
deriving DecidableEq

namespace Slip

/-- The failure that a slip ends in. -/
def failure : Slip → Failure
  | emptyNumber => ⟨"IndexError".toList, "string index out of range".toList⟩
  | notDate => ⟨"AttributeError".toList, "'NoneType' object has no attribute 'groupdict'".toList⟩
  | hugeCode => ⟨"OverflowError".toList, "Python int too large to convert to C int".toList⟩
  | hugeFloat => ⟨"OverflowError".toList, "int too large to convert to float".toList⟩
  | tooDeep => ⟨"RecursionError".toList, "maximum recursion depth exceeded".toList⟩

end Slip

inductive Fault where
  | invalid
  | slip (s : Slip)
deriving DecidableEq

namespace Fault

/-- What must be there; without it the document is invalid. -/
def require {α : Type} : Option α → Except Fault α
  | some a => .ok a
  | none => .error invalid

end Fault

/-- What remains to be read, the number of characters read, and where reading has come to. -/
structure Input where
  rest : Text
  index : Nat
  line : Nat
  column : Nat

/-- A character that ends a line. -/
def isBreak (c : Char) : Bool :=
  c == '\n' || c == '\r' || c == '\u0085' || c == '\u2028' || c == '\u2029'

def isSpaceOrTab (c : Char) : Bool :=
  c == ' ' || c == '\t'

/-- The mark that a text may start with and that takes no column. -/
def byteOrderMark : Char :=
  '\uFEFF'

/-- A line ends here. -/
def endsLine : Option Char → Bool
  | none => true
  | some c => isBreak c

/-- A line ends here, or a space follows. -/
def endsField : Option Char → Bool
  | none => true
  | some c => isBreak c || c == ' '

/-- A line ends here, or a space or tab follows. -/
def endsWord : Option Char → Bool
  | none => true
  | some c => isBreak c || isSpaceOrTab c

/-- A character of an anchor or of the handle of a tag. -/
def isNameChar (c : Char) : Bool :=
  c.isAlphanum || c == '-' || c == '_'

namespace Input

def ofText (t : Text) : Input :=
  ⟨t, 0, 0, 0⟩

def peek (i : Input) : Option Char :=
  i.rest.head?

def peekAt (i : Input) (n : Nat) : Option Char :=
  i.rest[n]?

/-- Reads one character. -/
def step (i : Input) : Input :=
  match i.rest with
  | [] => i
  | c :: rest =>
    if isBreak c && !(c == '\r' && rest.head? == some '\n') then ⟨rest, i.index + 1, i.line + 1, 0⟩
    else ⟨rest, i.index + 1, i.line, if c = byteOrderMark then i.column else i.column + 1⟩

def skip (i : Input) : Nat → Input
  | 0 => i
  | n + 1 => i.step.skip n

/-- Reads while a condition holds. -/
def span (i : Input) (p : Char → Bool) : Text × Input :=
  let t := i.rest.takeWhile p
  (t, i.skip t.length)

def skipWhile (i : Input) (p : Char → Bool) : Input :=
  (i.span p).2

def skipSpaces (i : Input) : Input :=
  i.skipWhile (· == ' ')

/-- Reads a line break, if one is here. Most read as a line feed. -/
def lineBreak (i : Input) : Text × Input :=
  match i.rest with
  | '\r' :: '\n' :: _ => (['\n'], i.skip 2)
  | c :: _ =>
    if c == '\u2028' || c == '\u2029' then ([c], i.step)
    else if isBreak c then (['\n'], i.step)
    else ([], i)
  | [] => ([], i)

/-- Three characters stand here that separate documents. -/
def atSeparator (i : Input) (marker : Text) : Bool :=
  Text.startsWith i.rest marker && endsWord (i.peekAt 3)

def atAnySeparator (i : Input) : Bool :=
  i.atSeparator "---".toList || i.atSeparator "...".toList

/-- Passes a comment, if one is here. -/
def skipComment (i : Input) : Input :=
  if i.peek == some '#' then i.skipWhile fun c => !isBreak c else i

/-- Passes spaces and a comment up to the end of the line, which must come next. -/
def restOfLine? (i : Input) : Option Input :=
  let i := i.skipSpaces.skipComment
  if endsLine i.peek then some i.lineBreak.2 else none

end Input

end LuaIndex.Yaml
