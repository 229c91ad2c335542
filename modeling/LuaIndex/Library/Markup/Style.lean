import LuaIndex.Library.Markup.Color

namespace LuaIndex.Markup

/-- What a style may switch on or off. -/
inductive Trait where
  | bold
  | dim
  | italic
  | underline
  | blink
  | blink2
  | reverse
  | conceal
  | strike
  | underline2
  | frame
  | encircle
  | overline
deriving DecidableEq

namespace Trait

/-- The traits in the order in which a style names them. -/
def all : List Trait :=
  [bold, dim, italic, underline, blink, blink2, reverse, conceal, strike, underline2, frame, encircle,
    overline]

def name : Trait → String
  | bold => "bold"
  | dim => "dim"
  | italic => "italic"
  | underline => "underline"
  | blink => "blink"
  | blink2 => "blink2"
  | reverse => "reverse"
  | conceal => "conceal"
  | strike => "strike"
  | underline2 => "underline2"
  | frame => "frame"
  | encircle => "encircle"
  | overline => "overline"

/-- The short form of a name, for the traits that have one. -/
def short? : Trait → Option String
  | bold => some "b"
  | dim => some "d"
  | italic => some "i"
  | underline => some "u"
  | reverse => some "r"
  | conceal => some "c"
  | strike => some "s"
  | underline2 => some "uu"
  | overline => some "o"
  | _ => none

def ofWord? (t : Text) : Option Trait :=
  all.find? fun x => t = x.name.toList || some t = x.short?.map String.toList

end Trait

structure Style where
  /-- The traits spoken of, the latest first. -/
  traits : List (Trait × Bool)
  color : Option Text
  background : Option Text
  link : Option Text

namespace Style

def plain : Style :=
  ⟨[], none, none, none⟩

/-- The words of a trait, as far as it is spoken of. -/
def traitWords (s : Style) (x : Trait) : List Text :=
  match s.traits.lookup x with
  | none => []
  | some true => [x.name.toList]
  | some false => ["not".toList, x.name.toList]

/-- The words of a style in normal form. -/
def toWords (s : Style) : List Text :=
  Trait.all.flatMap s.traitWords ++ s.color.toList ++
    (s.background.map fun c => ["on".toList, c]).getD [] ++
    (s.link.map fun l => ["link".toList, l]).getD []

def text (s : Style) : Text :=
  match s.toWords with
  | [] => "none".toList
  | w :: ws => ws.foldl (fun t v => t ++ ' ' :: v) w

/-- A style with one more word, which says nothing about the words after it. -/
def addWord (s : Style) (word : Text) : Except StyleFault Style :=
  match Trait.ofWord? (Text.lower word) with
  | some x => .ok { s with traits := (x, true) :: s.traits }
  | none => (Color.read word).map fun c => { s with color := some c }

/-- A style with a word added that the word before it leads in, if that one is such a word. Capitals
matter in the name of a trait and in a link. -/
def addPair? (s : Style) (lead word : Text) : Option (Except StyleFault Style) :=
  match String.ofList (Text.lower lead) with
  | "on" => some ((Color.read word).map fun c => { s with background := some c })
  | "not" =>
    some (match Trait.ofWord? word with
      | some x => .ok { s with traits := (x, false) :: s.traits }
      | none => .error .unknown)
  | "link" => some (.ok { s with link := some word })
  | _ => none

/-- A style with words added to it. -/
def addWords (s : Style) : List Text → Except StyleFault Style
  | [] => .ok s
  | [w] => s.addWord w
  | w :: v :: rest =>
    match s.addPair? w v with
    | some (.ok s') => addWords s' rest
    | some (.error e) => .error e
    | none =>
      match s.addWord w with
      | .ok s' => addWords s' (v :: rest)
      | .error e => .error e

/-- The style that a text describes. -/
def read (t : Text) : Except StyleFault Style :=
  if Text.strip t = "none".toList then .ok plain else plain.addWords (Text.words t)

/-- The normal form of a text that describes a style. One that describes none is a name, in which
capitals do not matter. -/
def normal (t : Text) : Except StyleFault Text :=
  match read t with
  | .ok s => .ok s.text
  | .error .unknown => .ok (Text.lower (Text.strip t))
  | .error .emptyNumber => .error .emptyNumber

end Style

end LuaIndex.Markup
