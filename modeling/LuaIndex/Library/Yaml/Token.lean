import LuaIndex.Library.Yaml.Scalar
import LuaIndex.Text.Integer
import LuaIndex.Text.Utf8

namespace LuaIndex.Yaml

inductive Token where
  | version (major : Nat)
  | tagHandle (handle stem : Text)
  | otherDirective
  | documentStart
  | documentEnd
  | blockSequenceStart
  | blockMappingStart
  | blockEnd
  | flowSequenceStart
  | flowSequenceEnd
  | flowMappingStart
  | flowMappingEnd
  | key
  | value
  | blockEntry
  | flowEntry
  | alias (name : Text)
  | anchor (name : Text)
  | tag (handle : Option Text) (suffix : Text)
  | scalar (text : Text) (plain : Bool)
  /-- Nothing more can be read. -/
  | fault (cause : Fault)
deriving DecidableEq

/-- A token, or a place before which a key may turn out to start. -/
inductive Slot where
  | token (t : Token)
  | candidate (id : Nat)

/-- Where a key may have started. A required one must turn out to be a key. -/
structure Candidate where
  id : Nat
  required : Bool
  index : Nat
  line : Nat
  column : Nat

/-- The state of reading tokens. `slots` has the newest first, `keys` the candidates that became keys
and whether a mapping starts with each, `candidates` the open ones by depth of brackets. -/
structure Lexing where
  input : Input
  flow : Nat
  slots : List Slot
  fresh : Nat
  keys : List (Nat × Bool)
  indent : Int
  indents : List Int
  keyAllowed : Bool
  candidates : List (Nat × Candidate)

namespace Lexing

def ofText (t : Text) : Lexing :=
  ⟨.ofText t, 0, [], 0, [], -1, [], true, []⟩

def emit (s : Lexing) (t : Token) : Lexing :=
  { s with slots := .token t :: s.slots }

/-- Reads `n` characters as a token. -/
def mark (s : Lexing) (n : Nat) (t : Token) : Lexing :=
  { s with input := s.input.skip n, slots := .token t :: s.slots }

/-- The longest key, in characters. -/
def keyLimit : Nat := 1024

/-- Drops candidates that can no longer become keys; none of them may be required. -/
def dropStale? (s : Lexing) : Option Lexing :=
  let (stale, live) := s.candidates.partition fun c =>
    c.2.line ≠ s.input.line || keyLimit < s.input.index - c.2.index
  if stale.any fun c => c.2.required then none else some { s with candidates := live }

/-- Drops the candidate of this depth, which must not be required. -/
def dropCandidate? (s : Lexing) : Option Lexing :=
  match s.candidates.lookup s.flow with
  | some c =>
    if c.required then none
    else some { s with candidates := s.candidates.filter fun e => e.1 ≠ s.flow }
  | none => some s

/-- Notes that a key may start here. -/
def addCandidate? (s : Lexing) : Option Lexing :=
  if s.keyAllowed then do
    let s ← s.dropCandidate?
    let c : Candidate := ⟨s.fresh, s.flow == 0 && s.indent == s.input.column, s.input.index,
      s.input.line, s.input.column⟩
    return { s with
      fresh := s.fresh + 1
      slots := .candidate s.fresh :: s.slots
      candidates := (s.flow, c) :: s.candidates }
  else some s

/-- Ends the block collections that are indented more than a column. -/
def unwind (s : Lexing) (column : Int) : Lexing :=
  if s.flow ≠ 0 then s else go s s.indents
where
  go (s : Lexing) : List Int → Lexing
    | [] => s
    | outer :: rest =>
      if column < s.indent then go { s.emit .blockEnd with indent := outer, indents := rest } rest
      else s

/-- Starts a block collection at a column if it is indented more than the one around it. -/
def deepen (s : Lexing) (column : Nat) : Lexing × Bool :=
  if s.indent < column then ({ s with indents := s.indent :: s.indents, indent := column }, true)
  else (s, false)

/-- Starts a block collection at a column, outside brackets, where a key or entry may stand. -/
def openBlock? (s : Lexing) (start : Token) : Option Lexing :=
  if s.flow ≠ 0 then some s
  else if !s.keyAllowed then none
  else match s.deepen s.input.column with
    | (s, true) => some (s.emit start)
    | (s, false) => some s

/-- Passes spaces, comments and line breaks. After a line break outside brackets a key may start. -/
def toNext : (fuel : Nat) → Lexing → Lexing
  | 0, s => s
  | fuel + 1, s =>
    let i := s.input.skipSpaces.skipComment
    match i.lineBreak with
    | ([], i) => { s with input := i }
    | (_, i) => toNext fuel { s with input := i, keyAllowed := s.keyAllowed || s.flow == 0 }

/-- Ends everything that is open, as the end of a document does. -/
def closeAll? (s : Lexing) : Option Lexing := do
  let s ← (s.unwind (-1)).dropCandidate?
  return { s with keyAllowed := false }

def isUriChar (c : Char) : Bool :=
  c.isAlphanum || c ∈ "-;/?:@&=+$,_.!~*'()[]%".toList

/-- The bytes of a run of percent escapes. -/
def uriBytes? : (fuel : Nat) → Input → Option (List UInt8 × Input)
  | 0, _ => none
  | fuel + 1, i =>
    if i.peek == some '%' then do
      let digits := i.step.rest.take 2
      if digits.length < 2 then none
      else
        let n ← Scalar.hexValue? digits
        let (bs, i) ← uriBytes? fuel (i.skip 3)
        return (n.toUInt8 :: bs, i)
    else some ([], i)

def uriRest? : (fuel : Nat) → Input → Option (Text × Input)
  | 0, _ => none
  | fuel + 1, i =>
    match i.peek with
    | none => some ([], i)
    | some c =>
      if c = '%' then do
        let (bs, i) ← uriBytes? (i.rest.length + 1) i
        match Utf8.decode bs with
        | .error _ => none
        | .ok t =>
          let (u, i) ← uriRest? fuel i
          return (t ++ u, i)
      else if isUriChar c then do
        let (u, i) ← uriRest? fuel i.step
        return (c :: u, i)
      else some ([], i)

/-- A text of the characters that tags are made of, not empty. -/
def uri? (i : Input) : Option (Text × Input) :=
  if i.peek.any isUriChar then uriRest? (i.rest.length + 1) i else none

/-- The handle of a tag: one mark, or a name between two. -/
def handle? (i : Input) : Option (Text × Input) :=
  if i.peek ≠ some '!' then none
  else if i.peekAt 1 == some ' ' then some (['!'], i.step)
  else
    let (name, j) := i.step.span isNameChar
    if j.peek == some '!' then some ('!' :: name ++ ['!'], j.step) else none

def number? (i : Input) : Option (Nat × Input) :=
  let (digits, i) := i.span Char.isDigit
  if digits.isEmpty || Text.digitLimit < digits.length then none
  else some (digits.foldl (fun n c => n * 10 + (c.toNat - 48)) 0, i)

/-- A directive after its percent sign. -/
def directive? (i : Input) : Option (Token × Input) :=
  let (name, i) := i.span isNameChar
  if name.isEmpty || !endsField i.peek then none
  else do
    let (t, i) ← (if name = "YAML".toList then do
        let (major, i) ← number? i.skipSpaces
        if i.peek ≠ some '.' then none
        else
          let (_, i) ← number? i.step
          if endsField i.peek then some (Token.version major, i) else none
      else if name = "TAG".toList then do
        let (handle, i) ← handle? i.skipSpaces
        if i.peek ≠ some ' ' then none
        else
          let (stem, i) ← uri? i.skipSpaces
          if endsField i.peek then some (Token.tagHandle handle stem, i) else none
      else some (Token.otherDirective, i.skipWhile fun c => !isBreak c))
    let i ← i.restOfLine?
    return (t, i)

/-- A name after the mark of an anchor or alias. -/
def anchorName? (i : Input) : Option (Text × Input) :=
  let (name, i) := i.span isNameChar
  if name.isEmpty then none
  else if endsWord i.peek || i.peek.any fun c => c ∈ "?:,]\x7d%@`".toList then some (name, i)
  else none

/-- A tag with its mark. -/
def tag? (i : Input) : Option (Token × Input) := do
  let (t, i) ← (
    if i.peekAt 1 == some '<' then do
      let (suffix, i) ← uri? (i.skip 2)
      if i.peek == some '>' then some (Token.tag none suffix, i.step) else none
    else if endsWord (i.peekAt 1) then some (Token.tag none ['!'], i.step)
    else
      let word := i.step.rest.takeWhile fun c => !endsField (some c)
      do
        let (handle, i) ← if '!' ∈ word then handle? i else some (['!'], i.step)
        let (suffix, i) ← uri? i
        return (Token.tag (some handle) suffix, i))
  if endsField i.peek then some (t, i) else none

def takeDocumentMark? (s : Lexing) (t : Token) : Option Lexing :=
  s.closeAll?.map fun s => s.mark 3 t

def takeDirective? (s : Lexing) : Option Lexing := do
  let s ← s.closeAll?
  let (t, i) ← directive? s.input.step
  return { s with input := i }.emit t

def takeOpening? (s : Lexing) (t : Token) : Option Lexing := do
  let s ← s.addCandidate?
  return { s with flow := s.flow + 1, keyAllowed := true }.mark 1 t

def takeClosing? (s : Lexing) (t : Token) : Option Lexing := do
  let s ← s.dropCandidate?
  if s.flow = 0 then none else return { s with flow := s.flow - 1, keyAllowed := false }.mark 1 t

def takeFlowEntry? (s : Lexing) : Option Lexing := do
  let s ← s.dropCandidate?
  return { s with keyAllowed := true }.mark 1 .flowEntry

def takeBlockEntry? (s : Lexing) : Option Lexing := do
  let s ← s.openBlock? .blockSequenceStart
  let s ← s.dropCandidate?
  return { s with keyAllowed := true }.mark 1 .blockEntry

def takeKey? (s : Lexing) : Option Lexing := do
  let s ← s.openBlock? .blockMappingStart
  let s ← s.dropCandidate?
  return { s with keyAllowed := s.flow == 0 }.mark 1 .key

/-- A colon. If a key may have started at this depth, it did. -/
def takeValue? (s : Lexing) : Option Lexing :=
  match s.candidates.lookup s.flow with
  | some c =>
    let s := { s with candidates := s.candidates.filter fun e => e.1 ≠ s.flow }
    let (s, starts) := if s.flow = 0 then s.deepen c.column else (s, false)
    some ({ s with keys := (c.id, starts) :: s.keys, keyAllowed := false }.mark 1 .value)
  | none => do
    let s ← s.openBlock? .blockMappingStart
    let s ← { s with keyAllowed := s.flow == 0 }.dropCandidate?
    return s.mark 1 .value

/-- A token with which a key may start, and what follows it. -/
def takeNode (s : Lexing) (read : Input → Except Fault (Token × Input)) : Except Fault Lexing := do
  let s ← Fault.require s.addCandidate?
  let (t, i) ← read s.input
  return { s with input := i, keyAllowed := false }.emit t

def takeBlockScalar? (s : Lexing) (folded : Bool) : Option Lexing := do
  let s ← s.dropCandidate?
  let (t, i) ← Scalar.block? folded s.indent s.input.step
  return { s with input := i, keyAllowed := true }.emit (.scalar t false)

def takePlain? (s : Lexing) : Option Lexing := do
  let s ← s.addCandidate?
  let (t, broken, i) := Scalar.plain (s.flow ≠ 0) s.indent s.input
  return { s with input := i, keyAllowed := broken }.emit (.scalar t true)

/-- Characters that no plain scalar starts with, unless another word character follows some of them. -/
def indicators : Text :=
  "-?:,[]\x7b\x7d#&*!|>'\"%@`".toList

def startsPlain (s : Lexing) (c : Char) : Bool :=
  !(endsWord (some c) || c ∈ indicators) ||
    (!endsWord (s.input.peekAt 1) && (c == '-' || (s.flow == 0 && (c == '?' || c == ':'))))

def anchorToken (make : Text → Token) (i : Input) : Except Fault (Token × Input) :=
  Fault.require ((anchorName? i.step).map fun r => (make r.1, r.2))

def quotedToken (double : Bool) (i : Input) : Except Fault (Token × Input) :=
  (Scalar.quoted double i.step).map fun r => (.scalar r.1 false, r.2)

/-- Reads the next token, where a character is left. -/
def next (s : Lexing) (c : Char) : Except Fault Lexing :=
  let i := s.input
  let flow := s.flow ≠ 0
  let alone := endsWord (i.peekAt 1)
  if c = '%' && i.column = 0 then Fault.require s.takeDirective?
  else if i.column = 0 && i.atSeparator "---".toList then
    Fault.require (s.takeDocumentMark? .documentStart)
  else if i.column = 0 && i.atSeparator "...".toList then
    Fault.require (s.takeDocumentMark? .documentEnd)
  else if c = '[' then Fault.require (s.takeOpening? .flowSequenceStart)
  else if c = '\x7b' then Fault.require (s.takeOpening? .flowMappingStart)
  else if c = ']' then Fault.require (s.takeClosing? .flowSequenceEnd)
  else if c = '\x7d' then Fault.require (s.takeClosing? .flowMappingEnd)
  else if c = ',' then Fault.require s.takeFlowEntry?
  else if c = '-' && alone then Fault.require s.takeBlockEntry?
  else if c = '?' && (flow || alone) then Fault.require s.takeKey?
  else if c = ':' && (flow || alone) then Fault.require s.takeValue?
  else if c = '*' then s.takeNode (anchorToken .alias)
  else if c = '&' then s.takeNode (anchorToken .anchor)
  else if c = '!' then s.takeNode fun i => Fault.require (tag? i)
  else if c = '|' && !flow then Fault.require (s.takeBlockScalar? false)
  else if c = '>' && !flow then Fault.require (s.takeBlockScalar? true)
  else if c = '\'' then s.takeNode (quotedToken false)
  else if c = '"' then s.takeNode (quotedToken true)
  else if s.startsPlain c then Fault.require s.takePlain?
  else .error .invalid

/-- Goes on by one token; nothing is left after the last. -/
def advance (s : Lexing) : Except Fault (Lexing × Bool) := do
  let s ← Fault.require (toNext (s.input.rest.length + 1) s).dropStale?
  let s := s.unwind s.input.column
  match s.input.peek with
  | none => return (← Fault.require s.closeAll?, false)
  | some c => return (← s.next c, true)

/-- The tokens of some slots, with each candidate that became a key in its place. -/
def tokensOf (s : Lexing) (slots : List Slot) : List Token :=
  slots.flatMap fun
    | .token t => [t]
    | .candidate id =>
      match s.keys.lookup id with
      | some true => [.blockMappingStart, .key]
      | some false => [.key]
      | none => []

/-- A candidate that may still become a key. -/
def isOpen (s : Lexing) : Slot → Bool
  | .token _ => false
  | .candidate id => s.candidates.any fun c =>
      c.2.id = id && c.2.line = s.input.line && s.input.index - c.2.index ≤ keyLimit

/-- The tokens before a fault. What follows a place where a key may still start is not known when the
fault is met. -/
def broken (s : Lexing) (cause : Fault) : List Token :=
  s.tokensOf (s.slots.reverse.takeWhile fun slot => !s.isOpen slot) ++ [.fault cause]

/-- The tokens from here to the end of the text or to what cannot be read. -/
def run : (fuel : Nat) → Lexing → List Token
  | 0, s => s.broken .invalid
  | fuel + 1, s =>
    match s.advance with
    | .error cause => s.broken cause
    | .ok (s', true) => run fuel s'
    | .ok (s', false) => s'.tokensOf s'.slots.reverse

end Lexing

/-- A character that may stand in a text. -/
def isAllowed (c : Char) : Bool :=
  c == '\t' || c == '\n' || c == '\r' || c == '\u0085' || (32 ≤ c.toNat && c.toNat < 127) ||
    (160 ≤ c.toNat && c.toNat ≤ 0xFFFD) || 0x10000 ≤ c.toNat

/-- The tokens of a text. -/
def Token.ofText (t : Text) : List Token :=
  if t.all isAllowed then
    let start := Lexing.ofText t
    Lexing.run (t.length + 2)
      (if t.head? = some byteOrderMark then { start with input := start.input.step } else start)
  else [.fault .invalid]

end LuaIndex.Yaml
