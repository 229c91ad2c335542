import LuaIndex.Host
import LuaIndex.Library.Markup.Literal
import LuaIndex.Library.Markup.Style
import LuaIndex.Library.Table.Pictures
import LuaIndex.Text.Quoted

namespace LuaIndex.Markup

/-- A tag: its name, and what stands after an equals sign. -/
structure Tag where
  name : Text
  parameters : Option Text
deriving DecidableEq

namespace Tag

/-- The tag with its words apart. -/
def ofText (t : Text) : Tag :=
  let name := t.takeWhile (· ≠ '=')
  ⟨name, match t.drop name.length with
    | [] => none
    | _ :: parameters => some parameters⟩

/-- The tag as it is written. -/
def text (t : Tag) : Text :=
  '[' :: t.name ++ (t.parameters.map fun p => '=' :: p).getD [] ++ [']']

/-- The text that describes the style of a tag. -/
def style (t : Tag) : Text :=
  t.name ++ (t.parameters.map fun p => ' ' :: p).getD []

/-- A tag may start with a small letter or one of three marks. -/
def isStart (c : Char) : Bool :=
  ('a' ≤ c && c ≤ 'z') || c = '#' || c = '/' || c = '@'

/-- The inside of the tag that a text starts with. It holds no opening bracket. -/
def inside? : Text → Option Text
  | '[' :: c :: rest =>
    let more := rest.takeWhile fun d => d ≠ '[' && d ≠ ']'
    if isStart c && (rest.drop more.length).head? = some ']' then some (c :: more) else none
  | _ => none

end Tag

/-- Why a text cannot be shown. -/
inductive Error where
  | nothingToClose (position : Nat)
  | notOpen (tag : Tag) (position : Nat)
  /-- What a tag is to do has no meaning. -/
  | badAction (literal parameters : Text) (cause : LiteralFault)
  /-- A style names a colour with a component left out. -/
  | emptyNumber
deriving DecidableEq

namespace Error

def message : Error → Text
  | nothingToClose position =>
    "closing tag '[/]' at position ".toList ++ Text.ofNat position ++ " has nothing to close".toList
  | notOpen tag position =>
    "closing tag '".toList ++ tag.text ++ "' at position ".toList ++ Text.ofNat position ++
      " doesn't match any open tag".toList
  | badAction literal parameters cause =>
    "error parsing ".toList ++
      (if cause.isSyntax then Text.quoted literal ++ " in ".toList else []) ++
      Text.quoted parameters ++ "; ".toList ++ cause.message
  | emptyNumber => "invalid literal for int() with base 10: ''".toList

/-- The failure that an error ends in. -/
def failure (e : Error) : Failure :=
  match e with
  | emptyNumber => ⟨"ValueError".toList, e.message⟩
  | _ => ⟨"MarkupError".toList, e.message⟩

end Error

inductive Piece where
  | text (t : Text)
  | tag (position : Nat) (t : Tag)

/-- Backslashes and the inside of the tag after them. -/
structure Mark where
  slashes : Nat
  inside : Text

namespace Mark

/-- The mark that a text starts with. -/
def read? (t : Text) : Option Mark :=
  let slashes := (t.takeWhile (· = '\\')).length
  (Tag.inside? (t.drop slashes)).map (⟨slashes, ·⟩)

def length (m : Mark) : Nat :=
  m.slashes + m.inside.length + 2

/-- The pieces of a mark. Two backslashes stand for one, and a single one takes away the meaning of the
tag. -/
def pieces (position : Nat) (m : Mark) : List Piece :=
  let pairs := m.slashes / 2
  (if pairs = 0 then [] else [.text (List.replicate pairs '\\')]) ++
    if m.slashes % 2 = 1 then [.text ('[' :: m.inside ++ [']'])]
    else [.tag (position + 2 * pairs) (.ofText m.inside)]

end Mark

/-- The text before a mark, unless it is empty. `chunk` holds it from its end. -/
def chunkPiece (chunk : Text) : List Piece :=
  if chunk.isEmpty then [] else [.text chunk.reverse]

/-- The pieces of the rest of a text, with the first `skip` characters left out. -/
def piecesFrom (position skip : Nat) (chunk : Text) : Text → List Piece
  | [] => chunkPiece chunk
  | c :: rest =>
    match skip with
    | n + 1 => piecesFrom (position + 1) n chunk rest
    | 0 =>
      match Mark.read? (c :: rest) with
      | some m =>
        chunkPiece chunk ++ m.pieces position ++ piecesFrom (position + 1) (m.length - 1) [] rest
      | none => piecesFrom (position + 1) 0 (c :: chunk) rest

/-- The pieces of a text: its tags, each with its position, and what is between them. -/
def pieces (t : Text) : List Piece :=
  piecesFrom 0 0 [] t

/-- The text without the backslashes that stand right before brackets. -/
def plainBrackets : Text → Text
  | [] => []
  | '\\' :: '[' :: rest => '[' :: plainBrackets rest
  | c :: rest => c :: plainBrackets rest

/-- A control that has no place in a shown text. -/
def isDropped (c : Char) : Bool :=
  c.toNat ∈ [7, 8, 11, 12, 13]

/-- A text between tags as it is shown. -/
def shownText (t : Text) : Text :=
  (Text.withPictures t).filter fun c => !isDropped c

/-- What is to be done at a tag, and with what values: a name and values in brackets, or values. -/
def actionLiteral (parameters : Text) : Text :=
  let t := Text.strip parameters
  let rest := t.dropWhile fun c => Text.isWord c || c = '.'
  match rest with
  | [] => "()".toList
  | '(' :: _ => if 2 ≤ rest.length && rest.getLast? = some ')' && '\n' ∉ rest then rest else t
  | _ => t

/-- The values of an action have to be literals. -/
def checkAction (t : Tag) : Except Error Unit :=
  match t.parameters with
  | none => .ok ()
  | some [] => .ok ()
  | some parameters =>
    let literal := actionLiteral parameters
    match Literal.fault? (literal.dropWhile fun c => c = ' ' || c = '\t') with
    | none => .ok ()
    | some cause => .error (.badAction literal parameters cause)

/-- What is shown so far, the tags still open, the latest first, and the styles used. -/
structure Shown where
  text : Text
  opened : List Tag
  styles : List Text

namespace Shown

def normalName (name : Text) : Except Error Text :=
  (Style.normal name).mapError fun _ => .emptyNumber

/-- Closes a tag that is open. -/
def finish (s : Shown) (t : Tag) : Except Error Shown :=
  let s := { s with opened := s.opened.erase t }
  if t.name.head? = some '@' then (checkAction t).map fun _ => s
  else .ok { s with styles := t.style :: s.styles }

/-- Closes the latest tag of a name, or without a name the latest. -/
def close (s : Shown) (position : Nat) (tag : Tag) : Except Error Shown :=
  let name := Text.strip (tag.name.drop 1)
  if name.isEmpty then
    match s.opened with
    | [] => .error (.nothingToClose position)
    | t :: _ => s.finish t
  else
    match normalName name with
    | .error e => .error e
    | .ok name =>
      match s.opened.find? fun t => t.name = name with
      | none => .error (.notOpen tag position)
      | some t => s.finish t

def addPiece (s : Shown) : Piece → Except Error Shown
  | .text t => .ok { s with text := s.text ++ shownText (plainBrackets t) }
  | .tag position t =>
    if t.name.head? = some '/' then s.close position t
    else (normalName t.name).map fun name => { s with opened := ⟨name, t.parameters⟩ :: s.opened }

def addPieces (s : Shown) : List Piece → Except Error Shown
  | [] => .ok s
  | p :: ps =>
    match s.addPiece p with
    | .ok s' => addPieces s' ps
    | .error e => .error e

/-- The styles in use, those of open tags among them. -/
def allStyles (s : Shown) : List Text :=
  s.opened.map Tag.style ++ s.styles

end Shown

/-- What a text with tags shows. -/
def read (t : Text) : Except Error Shown :=
  if '[' ∈ t then Shown.addPieces ⟨[], [], []⟩ (pieces t) else .ok ⟨shownText t, [], []⟩

end LuaIndex.Markup
