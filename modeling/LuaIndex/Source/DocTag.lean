import LuaIndex.Text.Classes

namespace LuaIndex

/-- What a tag says of a parameter or a returned value: its type, the words after it, and the whole
text after the tag. -/
structure TagInfo where
  type : Text
  detail : Text
  text : Text
deriving DecidableEq

/-- A comment line by what it documents. -/
inductive DocTag where
  | param (name : Text) (info : TagInfo)
  | returned (info : TagInfo)
  | description (detail : Text)
deriving DecidableEq

namespace DocTag

/-- The first thing on the line is a comment. -/
def isComment (line : Text) : Bool :=
  Text.startsWith (Text.strip line) ['-', '-']

/-- A character of a type or of a documented name. -/
def isTypeChar (c : Char) : Bool :=
  c.isAlpha || Text.isDecimal c || c == '.'

/-- A run of type characters and the white space after it, and what follows. -/
def field? (t : Text) : Option (Text × Text) :=
  let word := t.takeWhile isTypeChar
  match t.dropWhile isTypeChar with
  | [] => none
  | c :: rest =>
    if word.isEmpty || !Text.isBlank c then none else some (word, rest.dropWhile Text.isBlank)

/-- The text up to its first line feed. -/
def firstLine (t : Text) : Text :=
  t.takeWhile (· ≠ '\n')

/-- A comment line without the white space around it, its dashes and the white space after them. -/
def body (line : Text) : Text :=
  Text.stripLeft ((Text.strip line).dropWhile (· = '-'))

/-- What a returned-value tag documents: a type and a detail. -/
def readReturn? (text : Text) : Option DocTag :=
  match field? text with
  | some (type, rest) => some (.returned ⟨type, firstLine rest, text⟩)
  | none => none

/-- What a parameter tag documents: a name, a type and a detail. -/
def readParam? (text : Text) : Option DocTag :=
  match field? text with
  | some (name, rest) =>
    match field? rest with
    | some (type, rest') => some (.param name ⟨type, firstLine rest', text⟩)
    | none => none
  | none => none

/-- The meaning of a comment line; none if it starts like a tag and is not of the tag's shape. -/
def classify? (line : Text) : Option DocTag :=
  match Text.after "@return".toList (body line) with
  | some rest => readReturn? (Text.strip rest)
  | none =>
    match Text.after "@param".toList (body line) with
    | some rest => readParam? (Text.strip rest)
    | none => some (.description (body line))

end DocTag

end LuaIndex
