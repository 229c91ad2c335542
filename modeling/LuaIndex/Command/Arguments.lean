import LuaIndex.Text.Basic

namespace LuaIndex.Command

/-- An option: its long name with dashes, a letter for short, and whether a value follows. -/
structure Switch where
  long : Text
  short : Option Char
  takesValue : Bool

/-- An option that was given, by its long name, and its value. -/
structure Given where
  name : Text
  value : Option Text

/-- The options in the order given, and the words. -/
structure Arguments where
  options : List Given
  words : List Text

namespace Arguments

def endOfOptions : Text :=
  ['-', '-']

def isOption (arg : Text) : Bool :=
  arg.head? = some '-' && 1 < arg.length

def addOptions (a : Arguments) (gs : List Given) : Arguments :=
  { a with options := gs ++ a.options }

def addWord (a : Arguments) (w : Text) : Arguments :=
  { a with words := w :: a.words }

/-- The options in a cluster of letters, and the last one if its value is still to come. The rest of
the cluster is the value of the first letter that takes one. -/
def cluster? (switches : List Switch) : Text → Option (List Given × Option Switch)
  | [] => some ([], none)
  | c :: rest =>
    match switches.find? fun s => s.short = some c with
    | none => none
    | some s =>
      if s.takesValue then
        if rest.isEmpty then some ([], some s) else some ([⟨s.long, some rest⟩], none)
      else (cluster? switches rest).map fun (gs, last) => (⟨s.long, none⟩ :: gs, last)

/-- What one argument gives: options, and the last one if its value is still to come. A long name may
have its value after an equals sign. -/
def option? (switches : List Switch) (arg : Text) : Option (List Given × Option Switch) :=
  let name := arg.takeWhile (· ≠ '=')
  match switches.find? fun s => s.long = name with
  | some s =>
    match arg.drop name.length with
    | [] => if s.takesValue then some ([], some s) else some ([⟨s.long, none⟩], none)
    | _ :: value => if s.takesValue then some ([⟨s.long, some value⟩], none) else none
  | none => if Text.startsWith arg endOfOptions then none else cluster? switches (arg.drop 1)

/-- Reads a command line. Unless options may be `mixed` with words, the first word ends them. -/
def read? (switches : List Switch) (mixed : Bool) : List Text → Option Arguments
  | [] => some ⟨[], []⟩
  | arg :: rest =>
    if arg = endOfOptions then some ⟨[], rest⟩
    else if isOption arg then
      match option? switches arg with
      | none => none
      | some (gs, none) => (read? switches mixed rest).map fun a => a.addOptions gs
      | some (gs, some s) =>
        match rest with
        | [] => none
        | value :: rest =>
          (read? switches mixed rest).map fun a => a.addOptions (gs ++ [⟨s.long, some value⟩])
    else if mixed then (read? switches mixed rest).map fun a => a.addWord arg
    else some ⟨[], arg :: rest⟩

/-- An option was given. -/
def has (a : Arguments) (name : String) : Bool :=
  a.options.any fun g => g.name = name.toList

/-- The value given last for an option. -/
def value? (a : Arguments) (name : String) : Option Text :=
  (a.options.reverse.find? fun g => g.name = name.toList).bind Given.value

end Arguments

end LuaIndex.Command
