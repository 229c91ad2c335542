import LuaIndex.Command.Request
import LuaIndex.Project
import LuaIndex.Cursor
import LuaIndex.ConvertFile
import LuaIndex.Json.Basic
import LuaIndex.Text.Styles

namespace LuaIndex

namespace Position

def toJson (p : Position) : Json :=
  .record [("line", .int p.line), ("character", .int p.character)]

end Position

namespace Location

def toJson (l : Location) : Json :=
  .record [("path", .ofText l.path),
    ("range", .record [("start", l.range.start.toJson), ("end", l.range.stop.toJson)])]

end Location

namespace TagInfo

def toJson (i : TagInfo) : Json :=
  .record [("type", .ofText i.type), ("detail", .ofText i.detail), ("text", .ofText i.text)]

end TagInfo

namespace FunctionInfo

def toJson (f : FunctionInfo) : Json :=
  .record [("name", .ofText f.name), ("title", .ofText f.title), ("detail", .ofText f.detail),
    ("location", f.location.toJson), ("params", .ofTable TagInfo.toJson f.params),
    ("returns", .ofList TagInfo.toJson f.returns)]

end FunctionInfo

namespace ModuleInfo

def toJson (m : ModuleInfo) : Json :=
  .record [("name", .ofText m.name), ("file_path", .ofText m.path),
    ("functions", .ofTable FunctionInfo.toJson m.functions)]

end ModuleInfo

namespace Command

/-- A failure that nobody took care of. -/
inductive Escape where
  | settings (cause : SettingsError)
  | table (cause : Failure)
deriving DecidableEq

def Escape.message : Escape → Text
  | settings cause => cause.message
  | table cause => cause.message

/-- How a command line ended: its exit code, what it printed, what it reported along the way, what it
complained of at last, and what escaped from it. -/
structure Response where
  exit : Nat
  stdout : Text
  notices : List Notice
  complaint : Text
  escaped : Option Escape
deriving DecidableEq

/-- The marks that stand for pages of help and for notes on usage, whose layout is left to the
terminal. -/
def helpMark : Text := "<help>".toList

def usageMark : Text := "<usage>".toList

def versionText : Text := "luamod version 0.1.0\n".toList

namespace Response

def print (t : Text) : Response :=
  ⟨0, t, [], [], none⟩

/-- Text from files or arguments, printed without what would style it. -/
def echo (t : Text) : Response :=
  print (Text.withoutStyles t)

/-- A complaint, on a line of its own. -/
def complain (exit : Nat) (t : Text) : Response :=
  ⟨exit, [], [], Text.withoutStyles t ++ ['\n'], none⟩

def escape (e : Escape) : Response :=
  ⟨1, [], [], [], some e⟩

def crash (e : SettingsError) : Response :=
  escape (.settings e)

/-- The response with something printed and reported before it. -/
def after (r : Response) (stdout : Text) (notices : List Notice) : Response :=
  { r with stdout := stdout ++ r.stdout, notices := notices ++ r.notices }

def notFile : Response :=
  complain 1 "Warning: please open a file first".toList

def error (exit : Nat) (message : Text) : Response :=
  complain exit ("Error: ".toList ++ message)

/-- A root that is not there is an expected failure. -/
def ofProjectError : ProjectError → Response
  | .noRoot path => error 1 (ProjectError.noRoot path).message
  | .settings cause => error 2 cause.message

end Response

def jsonLine (j : Json) : Text :=
  j.render ++ ['\n']

/-- Opens and indexes a project, then goes on with it. `before` is printed once indexing starts. -/
def withIndex (host : Host) (t : FileTree) (root : Option Text) (before : Text)
    (k : Project → Registry → Response) : Response :=
  match Project.open? host t (root.map Path.ofText) with
  | .error e => .ofProjectError e
  | .ok p =>
    let o := p.index t
    let r := match o.result with
      | .error e => Response.ofProjectError (.ofFile e)
      | .ok _ => k p o.registry
    r.after before o.notices

def indexJson (p : Project) (r : Registry) : Json :=
  .ofList (fun (m : ModuleInfo) => .record [("name", .ofText m.name),
    ("path", .ofText (p.display m.path)), ("functions", .ofList .ofText m.functions.keys)])
    r.sortedModules

/-- The rows of the table of modules. -/
def tableRows (p : Project) (r : Registry) : List Row :=
  r.sortedModules.map fun m => ⟨m.name, Text.ofNat m.functions.length, p.display m.path⟩

/-- The table of modules and a line with the totals. -/
def indexTable (host : Host) (p : Project) (r : Registry) : Response :=
  match host.table (tableRows p r) with
  | .error e => .escape (.table e)
  | .ok table =>
    .print (table ++ Text.ofNat r.size ++ " modules in ".toList ++ Text.ofInt r.progress.total ++
      " files\n".toList)

/-- Without JSON an empty line is left by the progress shown while indexing. -/
def runIndex (host : Host) (t : FileTree) (root : Option Text) (json : Bool) : Response :=
  withIndex host t root (if json then [] else ['\n']) fun p r =>
    if json then .print (jsonLine (indexJson p r)) else indexTable host p r

def runInfo (host : Host) (t : FileTree) (module : Text) (function : Option Text) (root : Option Text)
    (json : Bool) : Response :=
  withIndex host t root [] fun _ r =>
    match r.module? module with
    | none => .error 1 ("Module '".toList ++ module ++ "' not found".toList)
    | some m =>
      match function with
      | none =>
        .echo (if json then jsonLine (.record [("module", m.toJson)])
          else m.functions.values.flatMap fun f => f.title ++ ['\n'])
      | some name =>
        match m.functions.get? name with
        | none => .error 1 ("Function '".toList ++ name ++ "' not found in ".toList ++ m.name)
        | some f =>
          .echo (if json then jsonLine (.record [("function", f.toJson)])
            else f.page true ++ ['\n'])

/-- The place of a function as path, line and column, counted from one. -/
def placeText (p : Project) (l : Location) : Text :=
  p.display l.path ++ ":".toList ++ Text.ofInt (l.range.start.line + 1) ++ ":".toList ++
    Text.ofInt (l.range.start.character + 1)

/-- The function of a module, both by name. -/
def findFunction? (r : Registry) (module function : Text) : Option FunctionInfo :=
  (r.functions? module).bind fun fs => fs.get? function

def runLocate (host : Host) (t : FileTree) (target : Text) (root : Option Text) (json : Bool) : Response :=
  match Cursor.splitLastDot? target with
  | none => .error 1 ("Expected Module.function, got '".toList ++ target ++ "'".toList)
  | some (module, function) =>
    withIndex host t root [] fun p r =>
      match findFunction? r module function with
      | none => .error 1 ("'".toList ++ target ++ "' not found".toList)
      | some f =>
        .echo (if json then jsonLine f.location.toJson else placeText p f.location ++ ['\n'])

/-- Reads a document, then goes on with its text. -/
def withDocument (disk : Disk) (t : FileTree) (file : Text) (k : Text → Response) : Response :=
  let p := Path.ofText file
  match disk.isFile t p with
  | .error e => .crash (.file e)
  | .ok false => .notFile
  | .ok true =>
    match t.readText p with
    | .error e => .error 1 e.message
    | .ok source => k source

def runHover (host : Host) (t : FileTree) (file : Text) (line column : Int)
    (root : Option Text) : Response :=
  withDocument host.toDisk t file fun source =>
    withIndex host t root [] fun _ r =>
      match Cursor.reference? r source (line - 1) (column - 1) with
      | none => .complain 1 "No module function at this position".toList
      | some f => .echo (f.function.page true ++ ['\n'])

def completionJson (cs : List Candidate) : Json :=
  .ofList (fun (c : Candidate) =>
    .record [("name", .ofText c.name), ("documentation", .ofText c.documentation)]) cs

def runComplete (host : Host) (t : FileTree) (file : Text) (line column : Int) (root : Option Text)
    (json : Bool) : Response :=
  withDocument host.toDisk t file fun source =>
    withIndex host t root [] fun _ r =>
      let cs := Cursor.candidates r source (line - 1) (column - 1)
      .echo (if json then jsonLine (completionJson cs)
        else cs.flatMap fun c => c.function.title.takeWhile (· ≠ '\n') ++ ['\n'])

def runConvert (disk : Disk) (t : FileTree) (file : Text) (dryRun : Bool) : FileTree × Response :=
  match disk.isFile t (.ofText file) with
  | .error e => (t, .crash (.file e))
  | .ok false => (t, .notFile)
  | .ok true =>
    match t.convert disk file dryRun with
    | (t', .ok c) =>
      (t', .echo (match dryRun && c.changed, c.newSource with
        | true, some text => text
        | _, _ => c.message ++ ['\n']))
    | (t', .error e) => (t', .error (if e.isExpected then 1 else 2) e.message)

/-- Indexes and watches a project until interrupted, which is at once. A failure other than a missing
root is not taken care of. -/
def runWatch (host : Host) (t : FileTree) (root : Option Text) : Response :=
  match Project.open? host t (root.map Path.ofText) with
  | .error (.settings e) => .crash e
  | .error e => .ofProjectError e
  | .ok p =>
    let o := p.index t
    let r := match o.result with
      | .error e => Response.crash (.file e)
      | .ok _ =>
        let w := o.registry.watch t p.directories
        let r := match w.result with
          | .error e => Response.crash (.file e)
          | .ok _ => .print ("Watching ".toList ++ Text.ofNat w.registry.files.length ++
              " module files. Press Ctrl+C to stop.\n\nWatch mode stopped\n".toList)
        r.after [] w.notices
    r.after ['\n'] o.notices

def Request.run (host : Host) (t : FileTree) : Request → FileTree × Response
  | .index root json => (t, runIndex host t root json)
  | .info module function root json => (t, runInfo host t module function root json)
  | .locate target root json => (t, runLocate host t target root json)
  | .hover file line column root => (t, runHover host t file line column root)
  | .complete file line column root json => (t, runComplete host t file line column root json)
  | .convert file dryRun => runConvert host.toDisk t file dryRun
  | .watch root => (t, runWatch host t root)
  | .serve => (t, .print [])

def Invocation.run (host : Host) (t : FileTree) : Invocation → FileTree × Response
  | .help wanted => (t, ⟨if wanted then 0 else 2, helpMark, [], [], none⟩)
  | .version => (t, .print versionText)
  | .nothing => (t, .print [])
  | .usage => (t, ⟨2, [], [], usageMark, none⟩)
  | .nullCharacter => (t, .crash (.file .nullCharacter))
  | .request r => r.run host t

/-- Carries out a command line. -/
def run (host : Host) (t : FileTree) (args : List Text) : FileTree × Response :=
  (Invocation.ofLine args).run host t

/-- A log is asked for among the options before the command. -/
def wantsLog (args : List Text) : Bool :=
  (Arguments.read? programSwitches false args).any fun a => a.has "--verbose"

/-- What a command line prints beside its output: what it reported, each on a line of its own or in a log,
and then what it complained of. -/
def stderr (host : Host) (t : FileTree) (args : List Text) (r : Response) : Text :=
  (if wantsLog args then host.log t args r.notices else Notice.lines r.notices) ++ r.complaint

/-- The paths that a command line speaks of: files, and the root of the project. -/
def places (args : List Text) : List Path :=
  match Invocation.ofLine args with
  | .request r => (r.files ++ r.root?.toList.map fun root => root.getD ['.']).map .ofText
  | _ => []

/-- The directories that a command line has searched for modules. -/
def searched (host : Host) (t : FileTree) (args : List Text) : List Path :=
  match Invocation.ofLine args with
  | .request r =>
    match r.root? with
    | none => []
    | some root =>
      match Project.open? host t (root.map Path.ofText) with
      | .ok p => p.directories
      | .error _ => []
  | _ => []

end Command

end LuaIndex
