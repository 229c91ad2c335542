import LuaIndex.Library.Yaml.Input

namespace LuaIndex.Yaml.Scalar

/-- What becomes of the line breaks at the end of a block. -/
inductive Chomp where
  | strip
  | clip
  | keep
deriving DecidableEq

def chomp? (c : Option Char) : Option Chomp :=
  if c == some '+' then some .keep else if c == some '-' then some .strip else none

/-- An explicit indentation, from one to nine. -/
def increment? (c : Option Char) : Option Nat :=
  match c with
  | some d => if d.isDigit then some (d.toNat - 48) else none
  | none => none

/-- The indicators of a block, in either order, and the end of their line. -/
def blockHeader? (i : Input) : Option (Chomp × Option Nat × Input) :=
  let (chomp, increment, i) : Option Chomp × Option Nat × Input :=
    match chomp? i.peek with
    | some c =>
      match increment? i.step.peek with
      | some n => (some c, some n, i.skip 2)
      | none => (some c, none, i.step)
    | none =>
      match increment? i.peek with
      | some n =>
        match chomp? i.step.peek with
        | some c => (some c, some n, i.skip 2)
        | none => (none, some n, i.step)
      | none => (none, none, i)
  if increment == some 0 || !endsField i.peek then none
  else i.restOfLine?.map fun i => (chomp.getD .clip, increment, i)

/-- Passes spaces up to a column. -/
def indentTo (column : Nat) : (fuel : Nat) → Input → Input
  | 0, i => i
  | fuel + 1, i =>
    if i.column < column && i.peek == some ' ' then indentTo column fuel i.step else i

/-- Line breaks before the next line of a block, each after spaces up to the indentation. -/
def blockBreaks (indent : Nat) : (fuel : Nat) → Input → List Text × Input
  | 0, i => ([], i)
  | fuel + 1, i =>
    let i := indentTo indent indent i
    match i.lineBreak with
    | ([], i) => ([], i)
    | (b, i) =>
      let (bs, i) := blockBreaks indent fuel i
      (b :: bs, i)

/-- Line breaks before the first line of a block, and the deepest column met. -/
def blockIndent (deepest : Nat) : (fuel : Nat) → Input → List Text × Nat × Input
  | 0, i => ([], deepest, i)
  | fuel + 1, i =>
    if i.peek == some ' ' then
      let i := i.step
      blockIndent (max deepest i.column) fuel i
    else
      match i.lineBreak with
      | ([], i) => ([], deepest, i)
      | (b, i) =>
        let (bs, n, i) := blockIndent deepest fuel i
        (b :: bs, n, i)

/-- The lines of a block from here on, after some line breaks: the text, the break of the last line
and the breaks after it. -/
def blockLines (folded : Bool) (indent : Nat) (breaks : List Text) (lastBreak : Text) :
    (fuel : Nat) → Input → Text × Text × List Text × Input
  | 0, i => ([], lastBreak, breaks, i)
  | fuel + 1, i =>
    if i.column = indent && i.peek.isSome then
      let flush := !(i.peek.any isSpaceOrTab)
      let (line, i) := i.span fun c => !isBreak c
      let (b, i) := i.lineBreak
      let (more, i) := blockBreaks indent (i.rest.length + 1) i
      let joint : Text :=
        if i.column = indent && i.peek.isSome then
          if folded && b == ['\n'] && flush && !(i.peek.any isSpaceOrTab) then
            if more.isEmpty then [' '] else []
          else b
        else []
      let (t, last, bs, i) := blockLines folded indent more b fuel i
      (breaks.flatten ++ line ++ joint ++ t, last, bs, i)
    else ([], lastBreak, breaks, i)

/-- A block scalar after its first character, inside a collection of the given indentation. -/
def block? (folded : Bool) (parent : Int) (i : Input) : Option (Text × Input) :=
  (blockHeader? i).map fun (chomp, increment, i) =>
    let least := (max (parent + 1) 1).toNat
    let fuel := i.rest.length + 1
    let (breaks, indent, i) : List Text × Nat × Input :=
      match increment with
      | none =>
        let (bs, n, i) := blockIndent 0 fuel i
        (bs, max least n, i)
      | some n =>
        let indent := least + n - 1
        let (bs, i) := blockBreaks indent fuel i
        (bs, indent, i)
    let (t, last, bs, i) := blockLines folded indent breaks [] fuel i
    match chomp with
    | .strip => (t, i)
    | .clip => (t ++ last, i)
    | .keep => (t ++ last ++ bs.flatten, i)

def hexValue? (t : Text) : Option Nat :=
  t.foldl (fun acc c => do
    let n ← acc
    if c.isDigit then some (n * 16 + (c.toNat - 48))
    else if 'a' ≤ c && c ≤ 'f' then some (n * 16 + (c.toNat - 87))
    else if 'A' ≤ c && c ≤ 'F' then some (n * 16 + (c.toNat - 55))
    else none) (some 0)

/-- A character named by a number; half of a surrogate pair reads as the replacement character. -/
def charOfCode (n : Nat) : Except Fault Char :=
  if n < 0x110000 then
    .ok (if 0xD800 ≤ n && n < 0xE000 then Char.ofNat 0xFFFD else Char.ofNat n)
  else .error (if n < 0x80000000 then .invalid else .slip .hugeCode)

/-- What a backslash and a character stand for. -/
def escapes : List (Char × Nat) :=
  [('0', 0), ('a', 7), ('b', 8), ('t', 9), ('\t', 9), ('n', 10), ('v', 11), ('f', 12), ('r', 13),
    ('e', 27), (' ', 32), ('"', 34), ('\\', 92), ('/', 47), ('N', 133), ('_', 160), ('L', 8232),
    ('P', 8233)]

def escapeWidth? (c : Char) : Option Nat :=
  if c = 'x' then some 2 else if c = 'u' then some 4 else if c = 'U' then some 8 else none

/-- Line breaks inside quotes, each with the white space around it; a document may not end here. -/
def quotedBreaks? : (fuel : Nat) → Input → Option (List Text × Input)
  | 0, _ => none
  | fuel + 1, i =>
    if i.atAnySeparator then none
    else
      match (i.skipWhile isSpaceOrTab).lineBreak with
      | ([], i) => some ([], i)
      | (b, i) => do
        let (bs, i) ← quotedBreaks? fuel i
        return (b :: bs, i)

/-- A line break and those after it as text: a single line feed is a space. -/
def fold (first : Text) (breaks : List Text) : Text :=
  (if first ≠ ['\n'] then first else if breaks.isEmpty then [' '] else []) ++ breaks.flatten

/-- An escape after its backslash. -/
def escape (i : Input) : Except Fault (Text × Input) :=
  match i.peek with
  | none => .error .invalid
  | some c =>
    match escapes.lookup c with
    | some n => .ok ([Char.ofNat n], i.step)
    | none =>
      match escapeWidth? c with
      | some width => do
        let digits := i.step.rest.take width
        if digits.length < width then .error .invalid
        else
          let n ← Fault.require (hexValue? digits)
          let d ← charOfCode n
          return ([d], i.skip (width + 1))
      | none =>
        if isBreak c then do
          let i := i.lineBreak.2
          let (bs, i) ← Fault.require (quotedBreaks? (i.rest.length + 1) i)
          return (bs.flatten, i)
        else .error .invalid

/-- The rest of a quoted scalar up to its closing quote. -/
def quotedRest (double : Bool) : (fuel : Nat) → Input → Except Fault (Text × Input)
  | 0, _ => .error .invalid
  | fuel + 1, i =>
    match i.peek with
    | none => .error .invalid
    | some c =>
      if c = '\'' && !double then
        if i.peekAt 1 == some '\'' then do
          let (t, i) ← quotedRest double fuel (i.skip 2)
          return ('\'' :: t, i)
        else .ok ([], i.step)
      else if c = '"' && double then .ok ([], i.step)
      else if c = '\\' && double then do
        let (e, i) ← escape i.step
        let (t, i) ← quotedRest double fuel i
        return (e ++ t, i)
      else if isSpaceOrTab c || isBreak c then do
        let (blanks, i) := i.span isSpaceOrTab
        if i.peek.any isBreak then
          let (b, i) := i.lineBreak
          let (bs, i) ← Fault.require (quotedBreaks? (i.rest.length + 1) i)
          let (t, i) ← quotedRest double fuel i
          return (fold b bs ++ t, i)
        else
          let (t, i) ← quotedRest double fuel i
          return (blanks ++ t, i)
      else do
        let (t, i) ← quotedRest double fuel i.step
        return (c :: t, i)

/-- A quoted scalar after its opening quote. -/
def quoted (double : Bool) (i : Input) : Except Fault (Text × Input) :=
  quotedRest double (i.rest.length + 1) i

def isFlowMark (c : Char) : Bool :=
  c == ',' || c == '[' || c == ']' || c == '\x7b' || c == '\x7d'

/-- A colon here ends a plain scalar. -/
def endsAtColon (flow : Bool) (next : Option Char) : Bool :=
  endsWord next || (flow && next.any isFlowMark)

/-- The word of a plain scalar that starts here. -/
def plainWord (flow : Bool) : Text → Text
  | [] => []
  | c :: rest =>
    if endsWord (some c) || (c == ':' && endsAtColon flow rest.head?) ||
        (flow && (isFlowMark c || c == '?')) then []
    else c :: plainWord flow rest

/-- What separates two words of a plain scalar; none if the scalar ends here. The flag tells that a
line break was passed. -/
def plainGap (i : Input) : Option Text × Bool × Input :=
  let (blanks, i) := i.span (· == ' ')
  match i.lineBreak with
  | ([], i) => (if blanks.isEmpty then none else some blanks, false, i)
  | (b, i) =>
    if i.atAnySeparator then (none, true, i)
    else
      match breaks (i.rest.length + 1) i with
      | (none, i) => (none, true, i)
      | (some bs, i) => (some (fold b bs), true, i)
where
  breaks : (fuel : Nat) → Input → Option (List Text) × Input
    | 0, i => (some [], i)
    | fuel + 1, i =>
      if i.peek == some ' ' then breaks fuel i.step
      else
        match i.lineBreak with
        | ([], i) => (some [], i)
        | (b, i) =>
          if i.atAnySeparator then (none, i)
          else
            let (bs, i) := breaks fuel i
            (bs.map (b :: ·), i)

/-- The words of a plain scalar from here on, after a gap. The flag tells that a line break was
passed after the last word. -/
def plainWords (flow : Bool) (indent : Int) (gap : Text) (broken : Bool) :
    (fuel : Nat) → Input → Text × Bool × Input
  | 0, i => ([], broken, i)
  | fuel + 1, i =>
    let word := if i.peek == some '#' then [] else plainWord flow i.rest
    if word.isEmpty then ([], broken, i)
    else
      match plainGap (i.skip word.length) with
      | (none, broken, i) => (gap ++ word, broken, i)
      | (some next, broken, i) =>
        if i.peek == some '#' || (!flow && i.column < indent) then (gap ++ word, broken, i)
        else
          let (t, broken, i) := plainWords flow indent next broken fuel i
          (gap ++ word ++ t, broken, i)

/-- A plain scalar that starts here, inside a collection of the given indentation. -/
def plain (flow : Bool) (parent : Int) (i : Input) : Text × Bool × Input :=
  plainWords flow (parent + 1) [] false (i.rest.length + 1) i

end LuaIndex.Yaml.Scalar
