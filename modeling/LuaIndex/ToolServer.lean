import LuaIndex.Command.Run
import LuaIndex.Json.Read

namespace LuaIndex

/-- A tool as it is announced. -/
structure Tool where
  name : Text
  description : Text
  schema : Json

/-- Why a call is refused before anything is run. -/
inductive ToolError where
  | missingArgument (key : Text)
  | unknownTool (name : Text)
deriving DecidableEq

namespace ToolError

def message : ToolError → Text
  | missingArgument key => key.quoted
  | unknownTool name => "Unknown tool: ".toList ++ name

end ToolError

/-- A call that can be run. -/
inductive ToolCall where
  | locate (target : Text)
  | info (module : Text) (function : Option Text)
deriving DecidableEq

/-- What became of a run: it could not be started, or it ended. -/
inductive ChildRun where
  | missing
  | ended (code : Int) (stdout stderr : Text)
deriving DecidableEq

/-- What is wrong with the output of a run. -/
inductive OutputFault where
  /-- The run ended with a code other than zero. -/
  | failed (code : Int) (stderr : Text)
  | notJson (output : Text) (cause : JsonError)
  /-- Something else, in the words of the report. -/
  | unexpected (report : Text)

namespace Json

/-- The name of a value's type. -/
def typeName : Json → Text
  | .null => "NoneType".toList
  | .bool _ => "bool".toList
  | .int _ => "int".toList
  | .float _ => "float".toList
  | .text _ => "str".toList
  | .array _ => "list".toList
  | .object _ => "dict".toList

/-- A text in quotes; half of a surrogate pair is written as an escape. -/
def quotedText (cs : List Nat) : Text :=
  let quote := Text.quoteFor (ofCodes cs)
  quote :: cs.flatMap (fun n =>
    if isHighHalf n || isLowHalf n then unicodeEscape n else Text.quotedChar quote (Char.ofNat n)) ++
    [quote]

mutual

/-- A value as it is shown inside another. -/
def inspect : Json → Text
  | .null => "None".toList
  | .bool b => if b then "True".toList else "False".toList
  | .int n => Text.ofInt n
  | .float x => x.text
  | .text cs => quotedText cs
  | .array [] => ['[', ']']
  | .array (j :: js) => '[' :: inspect j ++ inspectItems js ++ [']']
  | .object [] => ['\x7b', '\x7d']
  | .object ((k, j) :: ms) =>
    '\x7b' :: quotedText k ++ [':', ' '] ++ inspect j ++ inspectMembers ms ++ ['\x7d']

def inspectItems : List Json → Text
  | [] => []
  | j :: js => ',' :: ' ' :: inspect j ++ inspectItems js

def inspectMembers : List (List Nat × Json) → Text
  | [] => []
  | (k, j) :: ms => ',' :: ' ' :: quotedText k ++ [':', ' '] ++ inspect j ++ inspectMembers ms

end

/-- A value as it is shown in a sentence: texts without quotes. -/
def plain : Json → Text
  | .text cs => ofCodes cs
  | j => j.inspect

/-- A value in a sentence, if a number among it is not too long to be written. -/
def shown : Json → Except OutputFault Text
  | .int n =>
    let digits := Text.ofNat n.natAbs
    if Text.digitLimit < digits.length then
      .error (.unexpected ("Exceeds the limit (4300 digits) for integer string conversion; " ++
        "use sys.set_int_max_str_digits() to increase the limit").toList)
    else .ok (if n < 0 then '-' :: digits else digits)
  | j => .ok j.plain

/-- The member of an object. -/
def member (j : Json) (key : String) : Except OutputFault Json :=
  match j with
  | .object ms =>
    match ms.lookup (codes key.toList) with
    | some v => .ok v
    | none => .error (.unexpected (Text.quoted key.toList))
  | .array _ => .error (.unexpected "list indices must be integers or slices, not str".toList)
  | .text _ => .error (.unexpected "string indices must be integers, not 'str'".toList)
  | j => .error (.unexpected ("'".toList ++ j.typeName ++ "' object is not subscriptable".toList))

/-- The number one higher. -/
def plusOne : Json → Except OutputFault Json
  | .int n => .ok (.int (n + 1))
  | .bool b => .ok (.int (b.toNat + 1))
  | .float x => .ok (.float (x.addInt 1))
  | .text _ => .error (.unexpected "can only concatenate str (not \"int\") to str".toList)
  | .array _ => .error (.unexpected "can only concatenate list (not \"int\") to list".toList)
  | j => .error (.unexpected
      ("unsupported operand type(s) for +: '".toList ++ j.typeName ++ "' and 'int'".toList))

/-- Values that stand for nothing. -/
def isNothing : Json → Bool
  | .null => true
  | .bool b => !b
  | .int n => n = 0
  | .float (.finite _ m _) => m = 0
  | .text cs => cs.isEmpty
  | .array js => js.isEmpty
  | .object ms => ms.isEmpty
  | _ => false

end Json

namespace ToolCall

def locateName : Text := "luamod_locate".toList

def infoName : Text := "luamod_info".toList

/-- The program that is run. -/
def program : Text := "luamod".toList

def describedText (kind description : String) : Json :=
  .record [("type", .ofString kind), ("description", .ofString description)]

def objectSchema (properties : List (String × Json)) (required : List String) : Json :=
  .record [("type", .ofString "object"), ("properties", .record properties),
    ("required", .ofList .ofString required)]

/-- The tools on offer. -/
def tools : List Tool :=
  [{ name := locateName
     description := ("Find where a function of a Lua module(...) file is defined. " ++
       "Returns the file path and the line/column range of the function name.").toList
     schema := objectSchema [("target", describedText "string"
       "Function in format 'Module.function' (e.g., 'PlayerM.getLevel')")] ["target"] },
   { name := infoName
     description := ("Get the indexed functions of a Lua module, or detailed information " ++
       "about one function: signature, description, documented parameters " ++
       "and return values.").toList
     schema := objectSchema [
       ("module", describedText "string" "Module name (case-insensitive), e.g. 'PlayerM'"),
       ("function", describedText "string" "Optional function name within the module")]
       ["module"] }]

def argument (arguments : List (List Nat × Json)) (key : String) : Except ToolError Json :=
  match arguments.lookup (Json.codes key.toList) with
  | some j => .ok j
  | none => .error (.missingArgument key.toList)

/-- The call of a tool with its arguments. -/
def ofArguments (tool : Text) (arguments : List (List Nat × Json)) : Except ToolError ToolCall :=
  if tool = locateName then
    (argument arguments "target").map fun j => .locate j.plain
  else if tool = infoName then
    (argument arguments "module").map fun j =>
      .info j.plain (match arguments.lookup (Json.codes "function".toList) with
        | some f => if f.isNothing then none else some f.plain
        | none => none)
  else .error (.unknownTool tool)

/-- The name of the command that answers a call. -/
def commandName : ToolCall → Text
  | locate _ => "locate".toList
  | info _ _ => "info".toList

/-- The arguments of the command that answers a call. -/
def commandLine : ToolCall → List Text
  | locate target => ["locate".toList, target, "--json".toList]
  | info module function => "info".toList :: module :: function.toList ++ ["--json".toList]

/-- The program and its arguments. -/
def argv (c : ToolCall) : List Text :=
  program :: c.commandLine

/-- Signals by number. -/
def signalNames : List String :=
  ["SIGHUP", "SIGINT", "SIGQUIT", "SIGILL", "SIGTRAP", "SIGABRT", "SIGBUS", "SIGFPE", "SIGKILL",
    "SIGUSR1", "SIGSEGV", "SIGUSR2", "SIGPIPE", "SIGALRM", "SIGTERM", "SIGSTKFLT", "SIGCHLD",
    "SIGCONT", "SIGSTOP", "SIGTSTP", "SIGTTIN", "SIGTTOU", "SIGURG", "SIGXCPU", "SIGXFSZ",
    "SIGVTALRM", "SIGPROF", "SIGWINCH", "SIGIO", "SIGPWR", "SIGSYS"]

def signalName? (n : Nat) : Option String :=
  if n = 34 then some "SIGRTMIN"
  else if n = 64 then some "SIGRTMAX"
  else if n = 0 then none
  else signalNames[n - 1]?

/-- How a run ended that left no complaint. -/
def exitText (c : ToolCall) (code : Int) : Text :=
  let line := (Json.ofList .ofText c.argv).inspect
  "Command '".toList ++ line ++ "' ".toList ++
    (if code < 0 then
      match signalName? code.natAbs with
      | some name => "died with <Signals.".toList ++ name.toList ++ ": ".toList ++
          Text.ofNat code.natAbs ++ ">.".toList
      | none => "died with unknown signal ".toList ++ Text.ofNat code.natAbs ++ ".".toList
    else "returned non-zero exit status ".toList ++ Text.ofInt code ++ ".".toList)

/-- The JSON that a run printed. -/
def output (run : ChildRun) : Except OutputFault Json :=
  match run with
  | .missing => .error (.unexpected (FileError.missing program).message)
  | .ended code stdout stderr =>
    if code ≠ 0 then .error (.failed code stderr)
    else
      match Json.read stdout with
      | .ok j => .ok j
      | .error (.at problem offset) => .error (.notJson stdout (.at problem offset))
      | .error e => .error (.unexpected (e.message stdout))

/-- A sentence on the place that a location describes, lines and columns counted from one. -/
def locationText (target : Text) (location : Json) : Except OutputFault Text := do
  let start ← (← location.member "range").member "start"
  let stop ← (← location.member "range").member "end"
  let path ← (← location.member "path").shown
  let line ← (← (← start.member "line").plusOne).shown
  let first ← (← (← start.member "character").plusOne).shown
  let last ← (← stop.member "character").shown
  return "'".toList ++ target ++ "' defined in ".toList ++ path ++ " (line ".toList ++
    line ++ ", columns ".toList ++ first ++ "-".toList ++ last ++ ")".toList

/-- The report of a fault. -/
def faultText (c : ToolCall) : OutputFault → Text
  | .failed code stderr =>
    "Error running luamod ".toList ++ c.commandName ++ ": ".toList ++
      (if stderr.isEmpty then c.exitText code else Text.strip stderr)
  | .notJson text cause => "Error parsing luamod output: ".toList ++ cause.message text
  | .unexpected report => "Unexpected error: ".toList ++ report

/-- The answer to a call, given what became of the run. -/
def answer (c : ToolCall) (run : ChildRun) : Text :=
  let text : Except OutputFault Text := do
    let j ← output run
    match c with
    | locate target => locationText target j
    | info _ _ => return j.render
  match text with
  | .ok t => t
  | .error f => c.faultText f

/-- The run of the command line that answers a call. -/
def runIn (host : Host) (t : FileTree) (c : ToolCall) : ChildRun :=
  let (_, r) := Command.run host t c.commandLine
  .ended r.exit r.stdout (Command.stderr host t c.commandLine r)

end ToolCall

end LuaIndex
