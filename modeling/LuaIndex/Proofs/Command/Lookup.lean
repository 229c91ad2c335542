import LuaIndex.Command.Run
import LuaIndex.Proofs.Command.Names
import LuaIndex.Proofs.Cursor.Definition

namespace LuaIndex.Command

/-- The answer of a search for the place of a function. -/
def locateAnswer (p : Project) (target : Text) (json : Bool) : Option FunctionInfo → Response
  | none => .error 1 ("'".toList ++ target ++ "' not found".toList)
  | some f => .echo (if json then jsonLine f.location.toJson else placeText p f.location ++ ['\n'])

/-- The answer of a search for the page of a function. What is not found is the module, or a function in
it. -/
def infoAnswer (r : Registry) (module name : Text) (json : Bool) : Option FunctionInfo → Response
  | none =>
    match r.module? module with
    | none => .error 1 ("Module '".toList ++ module ++ "' not found".toList)
    | some m => .error 1 ("Function '".toList ++ name ++ "' not found in ".toList ++ m.name)
  | some f =>
    .echo (if json then jsonLine (.record [("function", f.toJson)]) else f.page true ++ ['\n'])

/-- The option for an answer in JSON, if it is wanted. -/
def jsonArguments (json : Bool) : List Text :=
  if json then [jsonOption] else []

theorem isOption_word {word : Text} (h : ∀ c ∈ word, Text.isWord c = true) (rest : Text)
    (hne : word ≠ []) : Arguments.isOption (word ++ rest) = false := by
  obtain ⟨c, cs, rfl⟩ := List.exists_cons_of_ne_nil hne
  have hdash : c ≠ '-' := by
    intro hc
    have hword := h c List.mem_cons_self
    rw [hc] at hword
    exact absurd hword (by decide)
  simp [Arguments.isOption, hdash]

theorem read?_lookup {names : List Text} (h : ∀ n ∈ names, Arguments.isOption n = false)
    (json : Bool) :
    Arguments.read? lookupSwitches true (names ++ jsonArguments json) =
      some ⟨if json then [⟨jsonOption, none⟩] else [], names⟩ := by
  cases json with
  | true => exact Arguments.read?_names h
  | false =>
    rw [show jsonArguments false = [] from rfl, List.append_nil]
    induction names with
    | nil => rfl
    | cons n names ih =>
      rw [List.forall_mem_cons] at h
      rw [Arguments.read?_word h.1, ih h.2]
      rfl

/-- A target that does not look like an option is read as one. -/
theorem ofLine_locate {target : Text} (h : Arguments.isOption target = false) (json : Bool) :
    Invocation.ofLine ("locate".toList :: target :: jsonArguments json) =
      .request (.locate target none json) := by
  have hread := read?_lookup (List.forall_mem_singleton.mpr h) json
  have hline : Invocation.ofLine ("locate".toList :: target :: jsonArguments json) =
      .ofCommand "locate" lookupSwitches ([target] ++ jsonArguments json) := rfl
  rw [hline, Invocation.ofCommand, hread]
  cases json <;> rfl

/-- Names that do not look like options are read as those of a module and a function. -/
theorem ofLine_info {module name : Text} (hm : Arguments.isOption module = false)
    (hn : Arguments.isOption name = false) (json : Bool) :
    Invocation.ofLine ("info".toList :: module :: name :: jsonArguments json) =
      .request (.info module (some name) none json) := by
  have hnames : ∀ n ∈ [module, name], Arguments.isOption n = false := by simp [hm, hn]
  have hread := read?_lookup hnames json
  have hline : Invocation.ofLine ("info".toList :: module :: name :: jsonArguments json) =
      .ofCommand "info" lookupSwitches ([module, name] ++ jsonArguments json) := rfl
  rw [hline, Invocation.ofCommand, hread]
  cases json <;> rfl

/-- The last dot of a target splits it. -/
theorem runLocate_eq {module name : Text} (hname : '.' ∉ name) (host : Host) (t : FileTree)
    (root : Option Text) (json : Bool) :
    runLocate host t (module ++ '.' :: name) root json = withIndex host t root [] fun p r =>
      locateAnswer p (module ++ '.' :: name) json (findFunction? r module name) := by
  have hsplit : Cursor.splitLastDot? (module ++ '.' :: name) = some (module, name) :=
    Cursor.splitLastDot?_eq_some_iff.mpr ⟨rfl, hname⟩
  unfold runLocate
  rw [hsplit]
  refine congrArg (withIndex host t root []) (funext fun p => funext fun r => ?_)
  cases findFunction? r module name <;> rfl

theorem runInfo_eq (module name : Text) (host : Host) (t : FileTree)
    (root : Option Text) (json : Bool) :
    runInfo host t module (some name) root json = withIndex host t root [] fun _ r =>
      infoAnswer r module name json (findFunction? r module name) := by
  refine congrArg (withIndex host t root []) (funext fun p => funext fun r => ?_)
  unfold findFunction? Registry.functions?
  cases hm : r.module? module with
  | none => simp [infoAnswer, hm]
  | some m =>
    cases hf : m.functions.get? name with
    | none => simp [infoAnswer, hm, hf]
    | some f => simp [infoAnswer, hf]

end LuaIndex.Command
