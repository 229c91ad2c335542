import LuaIndex.Text.Classes

namespace LuaIndex.Markup

/-- Why a text is no literal. -/
inductive LiteralFault where
  | neverClosed (bracket : Char)
  | unmatched (bracket : Char)
  | mismatched (closing opening : Char)
  | openQuote (line : Nat)
  | openTripleQuote (line : Nat)
  | leadingZeros
  | badNumber (base : String)
  | missingComma
  /-- An equals sign after a name, or after a literal. -/
  | equalsSign (literal : Bool)
  | noValue
  | ill
  /-- The text is an expression and more than a literal. -/
  | computed
  /-- A value of this type is to be a key or a member of a set. -/
  | badKey (type : String)
deriving DecidableEq

namespace LiteralFault

def message : LiteralFault → Text
  | neverClosed b => "'".toList ++ b :: "' was never closed".toList
  | unmatched b => "unmatched '".toList ++ b :: "'".toList
  | mismatched c o =>
    "closing parenthesis '".toList ++ c :: "' does not match opening parenthesis '".toList ++ [o, '\'']
  | openQuote line =>
    "unterminated string literal (detected at line ".toList ++ Text.ofNat line ++ [')']
  | openTripleQuote line =>
    "unterminated triple-quoted string literal (detected at line ".toList ++ Text.ofNat line ++ [')']
  | leadingZeros =>
    ("leading zeros in decimal integer literals are not permitted; " ++
      "use an 0o prefix for octal integers").toList
  | badNumber base => "invalid ".toList ++ base.toList ++ " literal".toList
  | missingComma => "invalid syntax. Perhaps you forgot a comma?".toList
  | equalsSign false => "invalid syntax. Maybe you meant '==' or ':=' instead of '='?".toList
  | equalsSign true => "cannot assign to literal here. Maybe you meant '==' instead of '='?".toList
  | noValue => "expression expected after dictionary key and ':'".toList
  | ill => "invalid syntax".toList
  | computed => "malformed node or string".toList
  | badKey type => "unhashable type: '".toList ++ type.toList ++ "'".toList

/-- The text is no expression at all. -/
def isSyntax : LiteralFault → Bool
  | computed => false
  | badKey _ => false
  | _ => true

end LiteralFault

namespace Literal

inductive Token where
  | name (t : Text)
  | number (imaginary : Bool)
  /-- A quoted text, which may be marked as one that is put together. -/
  | quoted (formatted : Bool)
  | opening (c : Char)
  | closing (c : Char)
  /-- An operator or a mark between operands. -/
  | mark (t : Text)
deriving DecidableEq

def closingOf : Char → Char
  | '(' => ')'
  | '[' => ']'
  | _ => '}'

/-- Marks of several characters, longer ones first. -/
def longMarks : List Text :=
  ["...", "**", "//", "<<", ">>", "<=", ">=", "==", "!=", ":=", "->"].map String.toList

def isNameStart (c : Char) : Bool :=
  Text.isWord c && !c.isDigit

/-- The letters that may stand before a quote. -/
def isQuoteMark (t : Text) : Bool :=
  t.map Char.toLower ∈ ["", "r", "u", "b", "f", "br", "rb", "fr", "rf"].map String.toList

/-- What follows a quoted text, if its end is found. A backslash takes away the meaning of the
character after it, and only a quote of three marks goes over the end of a line. -/
def afterQuote? (quote : Text) (skip : Nat) : Text → Option Text
  | [] => none
  | c :: rest =>
    match skip with
    | n + 1 => afterQuote? quote n rest
    | 0 =>
      match Text.after quote (c :: rest) with
      | some t => some t
      | none =>
        if c = '\\' then afterQuote? quote 1 rest
        else if c = '\n' && quote.length = 1 then none
        else afterQuote? quote 0 rest

/-- Digits, with single underscores between them. -/
def takeDigits (isDigit : Char → Bool) : Text → Text
  | [] => []
  | c :: rest =>
    if isDigit c then c :: takeDigits isDigit rest
    else
      match c, rest with
      | '_', d :: _ => if isDigit d then c :: takeDigits isDigit rest else []
      | _, _ => []

/-- The part of a number after its mantissa: an exponent if digits follow it, and the mark of an
imaginary number. -/
def exponentLength : Text → Nat
  | c :: rest =>
    if c = 'e' || c = 'E' then
      let sign := if rest.head? = some '+' || rest.head? = some '-' then 1 else 0
      let digits := takeDigits Char.isDigit (rest.drop sign)
      if digits.isEmpty then 0 else 1 + sign + digits.length
    else 0
  | [] => 0

/-- The token of a number and what follows it, unless it is part of a word. -/
def endNumber (base : String) (imaginary : Bool) (rest : Text) : Except LiteralFault (Token × Text) :=
  if rest.head?.any Text.isWord then .error (.badNumber base) else .ok (.number imaginary, rest)

/-- A number that a text starts with, and what follows it. -/
def afterDecimal (t : Text) : Except LiteralFault (Token × Text) :=
  let whole := takeDigits Char.isDigit t
  let rest := t.drop whole.length
  let (fraction, rest) : Bool × Text :=
    match rest with
    | '.' :: r => (true, r.drop (takeDigits Char.isDigit r).length)
    | _ => (false, rest)
  let power := exponentLength rest
  match rest.drop power with
  | 'j' :: r => endNumber "imaginary" true r
  | 'J' :: r => endNumber "imaginary" true r
  | r =>
    if !fraction && power = 0 && whole.head? = some '0' && whole.any fun c => c.isDigit && c ≠ '0' then
      .error .leadingZeros
    else endNumber "decimal" false r

/-- A number in digits of another base, of which there has to be one, and what follows it. -/
def afterDigits (base : String) (isDigit : Char → Bool) (t : Text) :
    Except LiteralFault (Token × Text) :=
  let t := match t with
    | '_' :: r => r
    | _ => t
  let digits := takeDigits isDigit t
  if digits.isEmpty then .error (.badNumber base) else endNumber base false (t.drop digits.length)

def isHexDigit (c : Char) : Bool :=
  c.isDigit || ('a' ≤ c.toLower && c.toLower ≤ 'f')

/-- A number that a text starts with, whose base a letter after a zero may name, and what follows it. -/
def afterNumber (t : Text) : Except LiteralFault (Token × Text) :=
  match t with
  | '0' :: c :: rest =>
    if c.toLower = 'x' then afterDigits "hexadecimal" isHexDigit rest
    else if c.toLower = 'o' then afterDigits "octal" (fun d => '0' ≤ d && d ≤ '7') rest
    else if c.toLower = 'b' then afterDigits "binary" (fun d => d = '0' || d = '1') rest
    else afterDecimal t
  | _ => afterDecimal t

/-- A token at the start of a text, and what follows it. -/
def token (line : Nat) (t : Text) : Except LiteralFault (Token × Text) :=
  let word := t.takeWhile Text.isWord
  let rest := t.drop word.length
  match rest with
  | q :: body =>
    if (q = '"' || q = '\'') && isQuoteMark word then
      let formatted := word.any fun c => c.toLower = 'f'
      match Text.after [q, q] body with
      | some body' =>
        match afterQuote? [q, q, q] 0 body' with
        | some r => .ok (.quoted formatted, r)
        | none => .error (.openTripleQuote (line + body'.count '\n'))
      | none =>
        match afterQuote? [q] 0 body with
        | some r => .ok (.quoted formatted, r)
        | none => .error (.openQuote line)
    else other word rest
  | [] => other word rest
where
  other (word rest : Text) : Except LiteralFault (Token × Text) :=
    match t with
    | [] => .error .ill
    | c :: after =>
      if c.isDigit || (c = '.' && after.head?.any Char.isDigit) then
        afterNumber t
      else if isNameStart c then .ok (.name word, rest)
      else if c ∈ ['(', '[', '{'] then .ok (.opening c, after)
      else if c ∈ [')', ']', '}'] then .ok (.closing c, after)
      else
        match longMarks.find? fun m => Text.startsWith t m with
        | some m => .ok (.mark m, t.drop m.length)
        | none => .ok (.mark [c], after)

/-- The tokens of a text. `brackets` are those still open, the innermost first; `fuel` is the length of
the text. -/
def tokens (line : Nat) (brackets : List Char) (fuel : Nat) (t : Text) :
    Except LiteralFault (List Token) :=
  match fuel, t with
  | 0, _ => .ok []
  | _, [] => .ok []
  | fuel + 1, c :: rest =>
    if c = ' ' || c = '\t' || c = '\x0c' then tokens line brackets fuel rest
    else if c = '#' then tokens line brackets fuel (rest.dropWhile (· ≠ '\n'))
    else if c = '\n' then
      if brackets.isEmpty then (tokens (line + 1) brackets fuel rest).map (.mark ['\n'] :: ·)
      else tokens (line + 1) brackets fuel rest
    else
      match token line (c :: rest) with
      | .error e => .error e
      | .ok (.opening b, r) => (tokens line (b :: brackets) fuel r).map (.opening b :: ·)
      | .ok (.closing b, r) =>
        match brackets with
        | [] => .error (.unmatched b)
        | o :: os =>
          if b = closingOf o then (tokens line os fuel r).map (.closing b :: ·)
          else .error (.mismatched b o)
      | .ok (k, r) => (tokens line brackets fuel r).map (k :: ·)
termination_by structural fuel

/-- The rest cannot be read: with brackets open at the end of the text the innermost one is to blame. -/
def stuck (brackets : List Char) (rest : List Token) (fault : LiteralFault) : LiteralFault :=
  match brackets, rest with
  | b :: _, [] => .neverClosed b
  | _, _ => fault

/-- The brackets that are open after some tokens. -/
def openAfter (brackets : List Char) : List Token → List Char
  | [] => brackets
  | .opening b :: rest => openAfter (b :: brackets) rest
  | .closing _ :: rest => openAfter brackets.tail rest
  | _ :: rest => openAfter brackets rest

/-- An operand follows another one without anything between them. Inside brackets a comma is missed,
except between a name and a quoted text. -/
def apart (brackets : List Char) (last t : Token) (rest : List Token) : LiteralFault :=
  match openAfter brackets (t :: rest), t with
  | b :: bs, .opening _ => if brackets.length ≤ bs.length then .neverClosed b else missed
  | _, _ => missed
where
  missed : LiteralFault :=
    match brackets, last, t with
    | [], _, _ => .ill
    | _, .name _, .quoted _ => .ill
    | _, _, _ => stuck brackets rest .missingComma

/-- An equals sign follows an operand. Inside brackets, before another operand, two of them may have been
meant. -/
def assigned (brackets : List Char) (last : Token) (rest : List Token) : LiteralFault :=
  match brackets, last, rest with
  | [], _, _ => .ill
  | _, .closing _, _ => .ill
  | _, _, [] => stuck brackets [] .ill
  | _, _, .closing _ :: _ => .ill
  | _, _, .mark _ :: _ => .ill
  | _, .name _, _ => .equalsSign false
  | _, _, _ => .equalsSign true

def isSign (t : Text) : Bool :=
  t ∈ [['+'], ['-'], ['~']]

def isBinary (t : Text) : Bool :=
  t ∈ ["+", "-", "*", "/", "%", "@", "&", "|", "^", "<", ">", "**", "//", "<<", ">>", "<=", ">=",
    "==", "!="].map String.toList

def isConstant (t : Text) : Bool :=
  t ∈ ["True", "False", "None"].map String.toList

/-- Where reading stands: at the start of an operand, which may be left out after an opening bracket or
a comma; after a colon; after a point; or after an operand and its last token. -/
inductive Place where
  | start (optional : Bool)
  | value
  | member
  | after (last : Token)

/-- Reads tokens as operands and operators. -/
def check (brackets : List Char) : Place → List Token → Option LiteralFault
  | .start true, [] => if brackets.isEmpty then none else some (stuck brackets [] .ill)
  | .start false, [] => some (stuck brackets [] .ill)
  | .value, [] => some (stuck brackets [] .ill)
  | .member, [] => some (stuck brackets [] .ill)
  | .member, t :: rest =>
    match t with
    | .name _ => check brackets (.after t) rest
    | _ => some .ill
  | .after _, [] => brackets.head?.map .neverClosed
  | .after last, t :: rest =>
    match t with
    | .closing _ => check brackets.tail (.after t) rest
    | .opening '(' => check ('(' :: brackets) (.start true) rest
    | .mark m =>
      if m = [','] then check brackets (.start true) rest
      else if m = [':'] && brackets.head? = some '{' then check brackets .value rest
      else if m = ['.'] then check brackets .member rest
      else if isBinary m then check brackets (.start false) rest
      else if m = ['='] then some (assigned brackets last rest)
      else some .ill
    | .quoted _ =>
      match last with
      | .quoted _ => check brackets (.after t) rest
      | _ => some (apart brackets last t rest)
    | _ => some (apart brackets last t rest)
  | place, t :: rest =>
    match t with
    | .name _ => check brackets (.after t) rest
    | .number _ => check brackets (.after t) rest
    | .quoted _ => check brackets (.after t) rest
    | .opening b => check (b :: brackets) (.start true) rest
    | .closing _ =>
      match place with
      | .start true => check brackets.tail (.after t) rest
      | .value => some .noValue
      | _ => some .ill
    | .mark m =>
      if isSign m then check brackets (.start false) rest
      else if m = "...".toList then check brackets (.after t) rest
      else some .ill

/-- What matters of a value to what stands around it. -/
inductive Shape where
  | number (signed imaginary : Bool)
  | settled
  /-- A value that can change, by the name of its type. -/
  | mutable (type : String)

namespace Shape

/-- A value that can change is no key. -/
def asKey : Shape → Except LiteralFault Unit
  | .mutable type => .error (.badKey type)
  | _ => .ok ()

/-- Values side by side can change if one of them can. -/
def tuple : List Shape → Shape
  | [] => .settled
  | .mutable type :: _ => .mutable type
  | _ :: ss => tuple ss

end Shape

/-- What follows quoted texts, none of which may be put together. -/
def afterQuoted : List Token → Except LiteralFault (Shape × List Token)
  | .quoted true :: _ => .error .computed
  | .quoted false :: rest => afterQuoted rest
  | ts => .ok (.settled, ts)

mutual

/-- A value at the start of tokens, and what follows it. A number may have a sign, and an imaginary one
may be added to a real one. -/
def value : (fuel : Nat) → List Token → Except LiteralFault (Shape × List Token)
  | 0, _ => .error .computed
  | fuel + 1, ts => do
    let (left, rest) ← signed fuel ts
    match left, rest with
    | .number _ false, .mark m :: more =>
      if m = ['+'] || m = ['-'] then
        match ← operand fuel more with
        | (.number false true, rest) => return (.settled, rest)
        | _ => .error .computed
      else return (left, rest)
    | _, _ => return (left, rest)

def signed : (fuel : Nat) → List Token → Except LiteralFault (Shape × List Token)
  | 0, _ => .error .computed
  | fuel + 1, .mark m :: rest =>
    if m = ['+'] || m = ['-'] then do
      match ← operand fuel rest with
      | (.number false imaginary, rest) => return (.number true imaginary, rest)
      | _ => .error .computed
    else operand fuel (.mark m :: rest)
  | fuel + 1, ts => operand fuel ts

/-- A value without a sign. The only call among literals is that of an empty set. -/
def operand : (fuel : Nat) → List Token → Except LiteralFault (Shape × List Token)
  | 0, _ => .error .computed
  | fuel + 1, ts =>
    match ts with
    | .number imaginary :: rest => .ok (.number false imaginary, rest)
    | .quoted _ :: _ => afterQuoted ts
    | .name n :: rest =>
      if isConstant n then .ok (.settled, rest)
      else if n = "set".toList then
        match rest with
        | .opening '(' :: .closing _ :: rest => .ok (.mutable "set", rest)
        | _ => .error .computed
      else .error .computed
    | .mark m :: rest => if m = "...".toList then .ok (.settled, rest) else .error .computed
    | .opening '(' :: rest => do
      match ← items fuel rest with
      | ([s], false, rest) => return (s, rest)
      | (ss, _, rest) => return (Shape.tuple ss, rest)
    | .opening '[' :: rest => do
      let (_, _, rest) ← items fuel rest
      return (.mutable "list", rest)
    | .opening _ :: .closing _ :: rest => .ok (.mutable "dict", rest)
    | .opening _ :: rest => members fuel rest
    | _ => .error .computed

/-- Values up to a closing bracket or the end of the text, whether a comma stands among them, and what
follows. -/
def items : (fuel : Nat) → List Token → Except LiteralFault (List Shape × Bool × List Token)
  | 0, _ => .error .computed
  | fuel + 1, ts =>
    match ts with
    | [] => .ok ([], false, [])
    | .closing _ :: rest => .ok ([], false, rest)
    | _ => do
      let (s, rest) ← value fuel ts
      match rest with
      | [] => return ([s], false, [])
      | .closing _ :: rest => return ([s], false, rest)
      | .mark [','] :: rest =>
        let (ss, _, rest) ← items fuel rest
        return (s :: ss, true, rest)
      | _ => .error .computed

/-- Keys with values, or keys alone, up to a closing brace. -/
def members : (fuel : Nat) → List Token → Except LiteralFault (Shape × List Token)
  | 0, _ => .error .computed
  | fuel + 1, ts => do
    let (key, rest) ← value fuel ts
    let (type, rest) : String × List Token ← match rest with
      | .mark [':'] :: rest => do
        let (_, rest) ← value fuel rest
        pure ("dict", rest)
      | _ => pure ("set", rest)
    key.asKey
    match rest with
    | .closing _ :: rest => return (.mutable type, rest)
    | .mark [','] :: .closing _ :: rest => return (.mutable type, rest)
    | .mark [','] :: rest => members fuel rest
    | _ => .error .computed

end

/-- Why a text is no literal, if it is none. -/
def fault? (t : Text) : Option LiteralFault :=
  match tokens 1 [] t.length t with
  | .error e => some e
  | .ok [] => some .ill
  | .ok ts =>
    match check [] (.start false) ts, items (4 * ts.length + 4) ts with
    | some e, _ => some e
    | none, .error e => some e
    | none, .ok (_, _, _ :: _) => some .computed
    | none, .ok (_, _, []) => none

end Literal

end LuaIndex.Markup
