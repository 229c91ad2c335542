import LuaIndex.Command.Arguments
import LuaIndex.Text.Integer

namespace LuaIndex.Command

inductive Request where
  | index (root : Option Text) (json : Bool)
  | info (module : Text) (function : Option Text) (root : Option Text) (json : Bool)
  | locate (target : Text) (root : Option Text) (json : Bool)
  | hover (file : Text) (line column : Int) (root : Option Text)
  | complete (file : Text) (line column : Int) (root : Option Text) (json : Bool)
  | convert (file : Text) (dryRun : Bool)
  | watch (root : Option Text)
  /-- Offer the tools until the input ends. -/
  | serve
deriving DecidableEq

/-- The meaning of a command line. -/
inductive Invocation where
  /-- A help page, wanted or, without any argument, needed. -/
  | help (wanted : Bool)
  | version
  /-- Options only. -/
  | nothing
  /-- The line is none of the program's. -/
  | usage
  /-- A path holds the null character. -/
  | nullCharacter
  | request (r : Request)
deriving DecidableEq

def switch (long : String) (short : Option Char) (takesValue : Bool) : Switch :=
  ⟨long.toList, short, takesValue⟩

def helpSwitch : Switch := switch "--help" none false

def rootSwitch : Switch := switch "--root" (some 'r') true

def jsonSwitch : Switch := switch "--json" (some 'j') false

def programSwitches : List Switch :=
  [switch "--version" (some 'v') false, switch "--verbose" none false, helpSwitch]

/-- The options of a command, if there is one of that name. -/
def commandSwitches? (name : String) : Option (List Switch) :=
  match name with
  | "index" => some [rootSwitch, jsonSwitch, helpSwitch]
  | "info" => some [rootSwitch, jsonSwitch, helpSwitch]
  | "locate" => some [rootSwitch, jsonSwitch, helpSwitch]
  | "hover" => some [rootSwitch, helpSwitch]
  | "complete" => some [rootSwitch, jsonSwitch, helpSwitch]
  | "convert" => some [switch "--dry-run" (some 'n') false, helpSwitch]
  | "watch" => some [rootSwitch, helpSwitch]
  | "mcp-server" => some [helpSwitch]
  | _ => none

/-- A line or column: a whole number from one up. -/
def position? (t : Text) : Option Int :=
  match Text.readInt? 10 t with
  | some n => if 1 ≤ n then some n else none
  | none => none

/-- The request of a command with its options and words. -/
def Request.ofArguments? (name : String) (a : Arguments) : Option Request :=
  let root := a.value? "--root"
  let json := a.has "--json"
  match name, a.words with
  | "index", [] => some (.index root json)
  | "info", [module] => some (.info module none root json)
  | "info", [module, function] => some (.info module (some function) root json)
  | "locate", [target] => some (.locate target root json)
  | "hover", [file, line, column] => do
    return .hover file (← position? line) (← position? column) root
  | "complete", [file, line, column] => do
    return .complete file (← position? line) (← position? column) root json
  | "convert", [file] => some (.convert file (a.has "--dry-run"))
  | "watch", [] => some (.watch root)
  | "mcp-server", [] => some .serve
  | _, _ => none

/-- The files that a request names. -/
def Request.files : Request → List Text
  | .hover file _ _ _ => [file]
  | .complete file _ _ _ _ => [file]
  | .convert file _ => [file]
  | _ => []

/-- The project root of a request that works on a project. The inner option is the root given. -/
def Request.root? : Request → Option (Option Text)
  | .index root _ => some root
  | .info _ _ root _ => some root
  | .locate _ root _ => some root
  | .hover _ _ _ root => some root
  | .complete _ _ _ root _ => some root
  | .convert _ _ => none
  | .watch root => some root
  | .serve => none

/-- The first word after the command is a file. -/
def takesFile (name : String) : Bool :=
  name == "hover" || name == "complete" || name == "convert"

/-- The paths among options and words. They are looked at before anything else is. -/
def pathsOf (name : String) (a : Arguments) : List Text :=
  (a.value? "--root").toList ++ if takesFile name then a.words.take 1 else []

/-- The meaning of a command and what follows it. -/
def Invocation.ofCommand (name : String) (switches : List Switch) (rest : List Text) : Invocation :=
  match Arguments.read? switches true rest with
  | none => .usage
  | some a =>
    if a.has "--help" then .help true
    else if (pathsOf name a).any (Char.ofNat 0 ∈ ·) then .nullCharacter
    else
      match Request.ofArguments? name a with
      | none => .usage
      | some r => .request r

/-- What the options before a command ask for at once: of version and help the one given first. -/
def Invocation.ofOptions? (a : Arguments) : Option Invocation :=
  (a.options.find? fun g => g.name = "--version".toList || g.name = "--help".toList).map fun g =>
    if g.name = "--help".toList then .help true else .version

/-- The meaning of a line whose command is unknown. After two dashes an option stands in the place of
the command, and is followed if it can be. -/
def Invocation.ofUnknown (line : List Text) : Invocation :=
  match Arguments.read? programSwitches false line with
  | none => .usage
  | some a => (Invocation.ofOptions? a).getD .usage

/-- The meaning of a command line. -/
def Invocation.ofLine (args : List Text) : Invocation :=
  if args.isEmpty then .help false
  else
    match Arguments.read? programSwitches false args with
    | none => .usage
    | some a =>
      match Invocation.ofOptions? a with
      | some i => i
      | none =>
        match a.words with
        | [] => .nothing
        | name :: rest =>
          match commandSwitches? (String.ofList name) with
          | some switches => .ofCommand (String.ofList name) switches rest
          | none => .ofUnknown (name :: rest)

end LuaIndex.Command
