import LuaIndex.Text.Classes
import LuaIndex.Library.Table.Clusters
import LuaIndex.Text.Lines

namespace LuaIndex.Text

/-- The parts of a text between the characters that satisfy `p`. -/
def splitBy (p : Char → Bool) : Text → List Text
  | [] => [[]]
  | c :: rest =>
    if p c then [] :: splitBy p rest
    else match splitBy p rest with
      | [] => [[c]]
      | part :: parts => (c :: part) :: parts

/-- A character that ends a line when the width of a text is measured. -/
def endsLine (c : Char) : Bool :=
  within [(10, 13), (28, 30), (133, 133), (8232, 8233)] c.toNat

/-- The cells of the widest line. -/
def widest (t : Text) : Nat :=
  ((splitBy endsLine t).map cells).foldl max 0

def tabWidth : Nat := 8

/-- Spaces up to the next tab stop. -/
def fillTab (part : Text) : Text :=
  let t := part ++ [' ']
  t ++ List.replicate ((tabWidth - cells t % tabWidth) % tabWidth) ' '

/-- Parts that tabs separate, with spaces for the tabs. -/
def fillTabs : List Text → Text
  | [] => []
  | [part] => part
  | part :: parts => fillTab part ++ fillTabs parts

/-- A line with spaces in place of tabs. A tab is at least one space. -/
def withoutTabs (line : Text) : Text :=
  fillTabs (splitBy (· = '\t') line)

/-- The parts of a text, cut after each blank that is not followed by another. -/
def cutAfterBlanks : Text → List Text
  | [] => []
  | c :: rest =>
    match rest, cutAfterBlanks rest with
    | d :: _, part :: parts =>
      if isBlank c && !isBlank d then [c] :: part :: parts else (c :: part) :: parts
    | _, parts => [c] :: parts

/-- The words of a line, each with the blanks after it. The blanks before the first one belong to it. -/
def wordParts (line : Text) : List Text :=
  match line.takeWhile isBlank, cutAfterBlanks (line.dropWhile isBlank) with
  | [], parts => parts
  | blanks, [] => [blanks]
  | blanks, part :: parts => (blanks ++ part) :: parts

/-- The lines of the parts that are left. `line` is what the current one holds, `used` its cells. A part
that does not fit starts a new line, even if it is too wide for any. -/
def breakParts (width used : Nat) (line : Text) : List Text → List Text
  | [] => [line]
  | part :: parts =>
    if used + cells (stripRight part) ≤ width || line.isEmpty then
      breakParts width (used + cells part) (line ++ part) parts
    else line :: breakParts width (cells part) part parts

/-- A line broken so that each word fits, if it can. -/
def breakLine (width : Nat) (line : Text) : List Text :=
  breakParts width 0 [] (wordParts line)

/-- The line without those blanks at its end that make it longer than `width`. -/
def trimTo (width : Nat) (line : Text) : Text :=
  let blanks := (line.reverse.takeWhile isBlank).length
  line.take (line.length - min blanks (line.length - width))

/-- The line, or its beginning and a mark for the rest. -/
def shorten (width : Nat) (line : Text) : Text :=
  if width < cells line then crop (width - 1) line ++ ['…'] else line

/-- The side of a column at which texts stand. -/
inductive Side where
  | left
  | right

def spaces (width : Nat) (line : Text) : Text :=
  List.replicate (width - cells line) ' '

/-- A line filled up with spaces to a width. -/
def fillUp (width : Nat) (line : Text) : Text :=
  line ++ spaces width line

/-- A line filled up at the side away from its text. What a joiner at the end hides is made up for. -/
def Side.fill (width : Nat) (line : Text) : Side → Text
  | left => fillUp width (fillUp width (shorten width line))
  | right => let l := shorten width (stripRight line); fillUp width (spaces width l ++ l)

/-- The lines of a text in a column. -/
def Side.lines (side : Side) (width : Nat) (t : Text) : List Text :=
  (Text.lines t).flatMap fun line =>
    (breakLine width (withoutTabs line)).map fun l => side.fill width (trimTo width l)

end LuaIndex.Text
