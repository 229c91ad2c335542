import LuaIndex.Text.Basic

namespace LuaIndex

structure Position where
  line : Int
  character : Int
deriving DecidableEq

namespace Position

/-- Document order: by line, then by character. -/
def lt (a b : Position) : Bool :=
  a.line < b.line || (a.line == b.line && a.character < b.character)

def le (a b : Position) : Bool :=
  a.line < b.line || (a.line == b.line && a.character ≤ b.character)

end Position

/-- The text from one point up to another, the second excluded. -/
structure Range where
  start : Position
  stop : Position
deriving DecidableEq

namespace Range

/-- The columns from `start` to `stop` of one line. -/
def onLine (line start stop : Int) : Range :=
  ⟨⟨line, start⟩, ⟨line, stop⟩⟩

def isEmpty (r : Range) : Bool :=
  r.start == r.stop

/-- Two ranges claim the same text. Two empty ranges do at the same point, an empty one does strictly
inside another; ranges that only touch do not. -/
def overlaps (a b : Range) : Bool :=
  if a.isEmpty && b.isEmpty then a.start == b.start
  else if a.isEmpty then b.start.lt a.start && a.start.lt b.stop
  else if b.isEmpty then a.start.lt b.start && b.start.lt a.stop
  else a.start.lt b.stop && b.start.lt a.stop

/-- Document order: by start, then by end. -/
def le (a b : Range) : Bool :=
  a.start.lt b.start || (a.start == b.start && a.stop.le b.stop)

end Range

/-- A range in a file. -/
structure Location where
  path : Text
  range : Range
deriving DecidableEq

/-- A name found on a line and the columns it takes. -/
structure Span where
  name : Text
  start : Nat
  stop : Nat
deriving DecidableEq

namespace Span

/-- Where the span lies when its line has the given number. -/
def range (s : Span) (line : Nat) : Range :=
  .onLine line s.start s.stop

/-- The span in a text of which it was found `n` characters in. -/
def shift (s : Span) (n : Nat) : Span :=
  ⟨s.name, n + s.start, n + s.stop⟩

end Span

end LuaIndex
