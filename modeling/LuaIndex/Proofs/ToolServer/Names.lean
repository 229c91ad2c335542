import LuaIndex.ToolServer
import LuaIndex.Library.Standard
import LuaIndex.Proofs.Command.Names
import LuaIndex.Proofs.Json.Reading
import LuaIndex.Proofs.Module.Places
import LuaIndex.Text.Styles

namespace LuaIndex

open Command

namespace Json

theorem withoutStyles_jsonLine {depth : Nat} {j : Json} (h : ReadsBack depth j) :
    Text.withoutStyles (jsonLine j) = jsonLine j := by
  obtain ⟨c, t, -, hwritten, htext⟩ := h.written 0
  apply Text.withoutStyles_of_not_mem
  rw [jsonLine, render, htext, List.append_nil, List.mem_append, not_or]
  refine ⟨fun hmem => ?_, by decide⟩
  exact absurd (hwritten _ hmem) (by decide)

end Json

theorem TagInfo.readsBack_toJson (i : TagInfo) : i.toJson.ReadsBack 1 := by
  apply Json.readsBack_record (by simp)
  simp only [List.forall_mem_cons, Json.readsBack_ofText, true_and]
  simp

theorem Position.readsBack_toJson {p : Position}
    (hline : 0 ≤ p.line ∧ p.line < Json.countLimit)
    (hcharacter : 0 ≤ p.character ∧ p.character < Json.countLimit) :
    p.toJson.ReadsBack 1 := by
  apply Json.readsBack_record (by simp)
  simp only [List.forall_mem_cons]
  exact ⟨Json.readsBack_int hline.1 hline.2, Json.readsBack_int hcharacter.1 hcharacter.2, by simp⟩

theorem Location.readsBack_toJson {l : Location} (h : l.range.Below Json.countLimit) :
    l.toJson.ReadsBack 3 := by
  simp only [Range.Below, List.forall_mem_cons] at h
  have hrange : (Json.record [("start", l.range.start.toJson),
      ("end", l.range.stop.toJson)]).ReadsBack 2 := by
    apply Json.readsBack_record (by simp)
    simp only [List.forall_mem_cons]
    exact ⟨Position.readsBack_toJson h.1.1 h.1.2, Position.readsBack_toJson h.2.1.1 h.2.1.2, by simp⟩
  apply Json.readsBack_record (by simp)
  simp only [List.forall_mem_cons]
  exact ⟨(Json.readsBack_ofText _).mono (by decide), hrange, by simp⟩

/-- What is written of a function is read back, unless its place takes too many digits. -/
theorem FunctionInfo.readsBack_toJson {f : FunctionInfo}
    (hplace : f.location.range.Below Json.countLimit) (hparams : f.params.keys.Nodup) :
    f.toJson.ReadsBack 4 := by
  have htext : ∀ t, (Json.ofText t).ReadsBack 3 := fun t => (Json.readsBack_ofText t).mono (by decide)
  have htags : (Json.ofTable TagInfo.toJson f.params).ReadsBack 2 :=
    Json.readsBack_ofTable hparams fun e _ => e.2.readsBack_toJson
  have hreturns : (Json.ofList TagInfo.toJson f.returns).ReadsBack 2 :=
    Json.readsBack_ofList fun i _ => i.readsBack_toJson
  apply Json.readsBack_record (by simp)
  simp only [List.forall_mem_cons]
  exact ⟨htext _, htext _, htext _, Location.readsBack_toJson hplace, htags.mono (by decide),
    hreturns.mono (by decide), by simp⟩

/-- The function of a module as a new index of the project in the working directory has it, both by
name. -/
def indexed? (host : Host) (t : FileTree) (module function : Text) : Option FunctionInfo :=
  match Project.open? host t none with
  | .error _ => none
  | .ok p =>
    match (p.index t).result with
    | .error _ => none
    | .ok _ => findFunction? (p.index t).registry module function

/-- The JSON that a lookup of a function prints. -/
def functionJson (f : FunctionInfo) : Json :=
  .record [("function", f.toJson)]

variable {host : Host} {t : FileTree} {module function : Text}

theorem exists_of_indexed? {f : FunctionInfo} (h : indexed? host t module function = some f) :
    ∃ p counts m, Project.open? host t none = .ok p ∧ (p.index t).result = .ok counts ∧
      (p.index t).registry.module? module = some m ∧ m.functions.get? function = some f := by
  unfold indexed? at h
  cases hp : Project.open? host t none with
  | error e => simp [hp] at h
  | ok p =>
    cases hr : (p.index t).result with
    | error e => simp [hp, hr] at h
    | ok counts =>
      simp only [hp, hr, findFunction?, Registry.functions?, Option.bind_eq_some_iff,
        Option.map_eq_some_iff] at h
      obtain ⟨fs, ⟨m, hm, rfl⟩, hf⟩ := h
      exact ⟨p, counts, m, rfl, hr, hm, hf⟩

theorem readsBack_of_indexed? (ht : t.FilesBelow Json.countLimit) {f : FunctionInfo}
    (h : indexed? host t module function = some f) : (functionJson f).ReadsBack 5 := by
  obtain ⟨p, counts, m, -, -, hm, hf⟩ := exists_of_indexed? h
  have hlimit : 0 < Json.countLimit := Json.pow_le_countLimit (Nat.zero_le _)
  have hcalls : ∀ x ∈ [(t, Registry.Call.load p.directories)],
      x.1.FilesBelow Json.countLimit := by
    simpa using ht
  obtain ⟨hplace, hparams⟩ := Registry.function_below hlimit hcalls hm hf
  apply Json.readsBack_record (by simp)
  rw [List.forall_mem_singleton]
  exact FunctionInfo.readsBack_toJson hplace hparams

theorem runInfo_of_indexed? {f : FunctionInfo} (h : indexed? host t module function = some f) :
    (runInfo host t module (some function) none true).exit = 0 ∧
      (runInfo host t module (some function) none true).stdout =
        Text.withoutStyles (jsonLine (functionJson f)) := by
  obtain ⟨p, counts, m, hp, hr, hm, hf⟩ := exists_of_indexed? h
  unfold runInfo withIndex
  simp only [Option.map_none, hp, hr, hm, hf]
  exact ⟨rfl, rfl⟩

theorem exit_runInfo_of_not_indexed? (h : indexed? host t module function = none) :
    (runInfo host t module (some function) none true).exit ≠ 0 := by
  unfold indexed? at h
  unfold runInfo withIndex
  cases hp : Project.open? host t none with
  | error e =>
    cases e with
    | noRoot path => simp [hp, Response.ofProjectError, Response.error, Response.complain]
    | settings cause => simp [hp, Response.ofProjectError, Response.error, Response.complain]
  | ok p =>
    cases hr : (p.index t).result with
    | error e =>
      simp [hp, hr, Response.after, ProjectError.ofFile, Response.ofProjectError, Response.error,
        Response.complain]
    | ok counts =>
      simp only [hp, hr, findFunction?, Registry.functions?] at h
      cases hm : (p.index t).registry.module? module with
      | none => simp [hp, hr, hm, Response.after, Response.error, Response.complain]
      | some m =>
        have hf : m.functions.get? function = none := by simpa [hm] using h
        simp [hp, hr, hm, hf, Response.after, Response.error, Response.complain]

namespace ToolCall

/-- The texts that a call hands on. -/
def names : ToolCall → List Text
  | locate target => [target]
  | info module function => module :: function.toList

/-- What a call asks for, its texts taken as names. -/
def request : ToolCall → Request
  | locate target => .locate target none true
  | info module function => .info module function none true

/-- The request of a call is made with the words of the line. -/
theorem words_of_ofArguments? {name : String} {a : Arguments} {c : ToolCall}
    (h : Request.ofArguments? name a = some c.request) : a.words = c.names := by
  unfold Request.ofArguments? at h
  split at h
  case h_2 hw =>
    cases c with
    | locate target => cases h
    | info module function =>
      obtain ⟨rfl, rfl, -, -⟩ := Request.info.inj (Option.some.inj h)
      exact hw
  case h_3 hw =>
    cases c with
    | locate target => cases h
    | info module function =>
      obtain ⟨rfl, rfl, -, -⟩ := Request.info.inj (Option.some.inj h)
      exact hw
  case h_4 hw =>
    cases c with
    | info module function => cases h
    | locate target =>
      obtain ⟨rfl, -, -⟩ := Request.locate.inj (Option.some.inj h)
      exact hw
  all_goals cases c <;> simp [request, bind, Option.bind_eq_some_iff] at h

theorem ofLine_commandLine (c : ToolCall) :
    Invocation.ofLine c.commandLine =
      .ofCommand (String.ofList c.commandName) lookupSwitches (c.names ++ [jsonOption]) := by
  cases c with
  | locate target => rfl
  | info module function => rfl

/-- The texts of a call are read as names exactly if none of them looks like an option. -/
theorem ofLine_commandLine_iff (c : ToolCall) :
    Invocation.ofLine c.commandLine = .request c.request ↔
      ∀ n ∈ c.names, Arguments.isOption n = false := by
  rw [ofLine_commandLine]
  constructor
  · intro h
    obtain ⟨a, ha, hr⟩ := exists_of_ofCommand h
    exact Arguments.isOption_of_words ha (words_of_ofArguments? hr)
  · intro h
    unfold Invocation.ofCommand
    rw [Arguments.read?_names h]
    cases c with
    | locate target => rfl
    | info module function =>
      cases function with
      | none => rfl
      | some function => rfl

/-- A text answers the lookup of a function: it is the JSON of the function that a new index has, or an
error if it has none. -/
def Answers (host : Host) (t : FileTree) (module function answer : Text) : Prop :=
  match indexed? host t module function with
  | some f => answer = (functionJson f).render
  | none => ∃ report, answer = "Error running luamod info: ".toList ++ report

/-- A call whose texts are read as names runs what it asks for. -/
theorem runIn_of_names {c : ToolCall} (h : ∀ n ∈ c.names, Arguments.isOption n = false)
    (host : Host) (t : FileTree) :
    c.runIn host t = .ended (c.request.run host t).2.exit (c.request.run host t).2.stdout
      (Command.stderr host t c.commandLine (c.request.run host t).2) := by
  rw [runIn, Command.run, (ofLine_commandLine_iff c).mpr h]
  rfl

theorem answer_of_exit {c : ToolCall} {code : Int} (hcode : code ≠ 0) (stdout stderr : Text) :
    c.answer (.ended code stdout stderr) = c.faultText (.failed code stderr) := by
  simp [answer, output, hcode, bind, Except.bind]

theorem answer_info_of_read {stdout : Text} {j : Json} (h : Json.read stdout = .ok j)
    (module : Text) (function : Option Text) (stderr : Text) :
    (info module function).answer (.ended 0 stdout stderr) = j.render := by
  simp [answer, output, h, bind, Except.bind, pure, Except.pure]

theorem answers_of_names (ht : t.FilesBelow Json.countLimit)
    (hmodule : Arguments.isOption module = false) (hfunction : Arguments.isOption function = false) :
    Answers host t module function ((info module (some function)).answer
      ((info module (some function)).runIn host t)) := by
  have hnames : ∀ n ∈ (info module (some function)).names, Arguments.isOption n = false := by
    simp [names, hmodule, hfunction]
  have hrun : (info module (some function)).request.run host t =
      (t, runInfo host t module (some function) none true) := rfl
  rw [runIn_of_names hnames, hrun]
  unfold Answers
  cases hf : indexed? host t module function with
  | none =>
    have hexit := exit_runInfo_of_not_indexed? hf
    have hcode : ((runInfo host t module (some function) none true).exit : Int) ≠ 0 := by omega
    dsimp only
    rw [answer_of_exit hcode]
    exact ⟨_, rfl⟩
  | some f =>
    obtain ⟨hexit, hstdout⟩ := runInfo_of_indexed? hf
    have hback := readsBack_of_indexed? ht hf
    rw [Json.withoutStyles_jsonLine hback] at hstdout
    dsimp only
    rw [hexit, hstdout]
    exact answer_info_of_read (Json.read_render hback (by decide)) module (some function) _

theorem plain_ofText (s : Text) : (Json.ofText s).plain = s := by
  have hchar : ∀ c : Char, (if 0xD800 ≤ c.toNat && c.toNat < 0xE000 then Char.ofNat 0xFFFD
      else Char.ofNat c.toNat) = c := by
    intro c
    have hvalid : c.toNat.isValidChar := c.valid
    rw [if_neg, Char.ofNat_toNat]
    simp only [Bool.and_eq_true, decide_eq_true_eq]
    omega
  simp only [Json.plain, Json.ofText, Json.ofCodes, Json.codes, List.map_map]
  exact List.map_id'' hchar s

theorem ofArguments_info {arguments : List (List Nat × Json)}
    (hmodule : arguments.lookup (Json.codes "module".toList) = some (.ofText module))
    (hfunction : arguments.lookup (Json.codes "function".toList) = some (.ofText function))
    (hne : function ≠ []) : ofArguments infoName arguments = .ok (info module (some function)) := by
  have hsome : (Json.ofText function).isNothing = false := by
    simpa [Json.ofText, Json.isNothing, Json.codes] using hne
  have hother : infoName ≠ locateName := by decide
  rw [ofArguments, if_neg hother, if_pos rfl, argument, hmodule, hfunction]
  simp [Except.map, hsome, plain_ofText]

/-- Given the names of a module and of a function, the call reads both as names exactly if neither looks
like an option. Then its answer is the JSON of this function as a new index of the working directory has
it, or an error if there is none. Files so large that a line number takes more digits than JSON allows are
left out. -/
theorem info_answers_names (host : Host) (t : FileTree) (ht : t.FilesBelow Json.countLimit)
    {arguments : List (List Nat × Json)} {module function : Text}
    (hmodule : arguments.lookup (Json.codes "module".toList) = some (.ofText module))
    (hfunction : arguments.lookup (Json.codes "function".toList) = some (.ofText function))
    (hne : function ≠ []) :
    ∃ c, ofArguments infoName arguments = .ok c ∧
      (Invocation.ofLine c.commandLine = .request (.info module (some function) none true) ↔
        Arguments.isOption module = false ∧ Arguments.isOption function = false) ∧
      (Arguments.isOption module = false ∧ Arguments.isOption function = false →
        Answers host t module function (c.answer (c.runIn host t))) := by
  refine ⟨_, ofArguments_info hmodule hfunction hne, ?_, fun h => answers_of_names ht h.1 h.2⟩
  have hread := ofLine_commandLine_iff (info module (some function))
  simpa [request, names] using hread

/-- A project in the working directory and another one below it. -/
def nestedProjects : FileTree :=
  ⟨[], [(["src".toList], .directory),
    (["src".toList, "aM.lua".toList], .file (Utf8.encode "module('A')\nfunction f()\nend\n".toList)),
    (["other".toList], .directory), (["other".toList, "src".toList], .directory),
    (["other".toList, "src".toList, "bM.lua".toList],
      .file (Utf8.encode "module('B')\nfunction g()\nend\n".toList))]⟩

theorem nestedProjects_small : nestedProjects.FilesBelow Json.countLimit := by
  have hsmall : ∀ e ∈ nestedProjects.nodes, e.2.size < Nat.pow 10 2 := by decide +kernel
  intro e he
  exact Nat.lt_of_lt_of_le (hsmall e he) (Json.pow_le_countLimit (by decide))

/-- The function of the project in the working directory is answered by its names. -/
theorem function_answered_by_name :
    ∃ c f, ofArguments infoName [(Json.codes "module".toList, .ofText "a".toList),
        (Json.codes "function".toList, .ofText "f".toList)] = .ok c ∧
      indexed? (.standard 485) nestedProjects "a".toList "f".toList = some f ∧
      c.answer (c.runIn (.standard 485) nestedProjects) = (functionJson f).render := by
  obtain ⟨c, hc, -, hanswer⟩ := @info_answers_names (.standard 485) nestedProjects nestedProjects_small
    [(Json.codes "module".toList, .ofText "a".toList),
      (Json.codes "function".toList, .ofText "f".toList)] "a".toList "f".toList rfl rfl (by decide)
  have hsome : (indexed? (.standard 485) nestedProjects "a".toList "f".toList).isSome = true := by decide +kernel
  obtain ⟨f, hf⟩ := Option.isSome_iff_exists.mp hsome
  have hjson := hanswer (by decide)
  rw [Answers, hf] at hjson
  exact ⟨c, f, hc, hf, hjson⟩

/-- A name that looks like an option names the root of another project, and what should be the name of a
function is looked up there as a module. -/
theorem root_given_as_module_name :
    indexed? (.standard 485) nestedProjects "-rother".toList "B".toList = none ∧
    Invocation.ofLine (info "-rother".toList (some "B".toList)).commandLine =
      .request (.info "B".toList none (some "other".toList) true) ∧
    ¬ Answers (.standard 485) nestedProjects "-rother".toList "B".toList
      ((info "-rother".toList (some "B".toList)).answer
        ((info "-rother".toList (some "B".toList)).runIn (.standard 485) nestedProjects)) := by
  have hnone : indexed? (.standard 485) nestedProjects "-rother".toList "B".toList = none := by decide +kernel
  refine ⟨hnone, by decide +kernel, ?_⟩
  rw [Answers, hnone]
  intro ⟨report, hreport⟩
  have hhead : ((info "-rother".toList (some "B".toList)).answer
        ((info "-rother".toList (some "B".toList)).runIn (.standard 485) nestedProjects)).head? = some '\x7b' := by
    decide +kernel
  have hfirst : ("Error running luamod info: ".toList ++ report).head? = some 'E' := rfl
  rw [hreport, hfirst] at hhead
  exact absurd hhead (by decide)

end ToolCall

end LuaIndex
