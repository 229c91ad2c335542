import LuaIndex.Proofs.Command.Lookup
import LuaIndex.Proofs.Registry.Tables

namespace LuaIndex.Cursor

open Command

/-- The line spells a function of a module. Both names are whole; what comes before and after is free
otherwise. -/
structure Spells (line before module name after : Text) : Prop where
  spelled : line = before ++ module ++ '.' :: (name ++ after)
  module_ne : module ≠ []
  module_word : ∀ c ∈ module, Text.isWord c = true
  module_whole : ∀ c, before.getLast? = some c → Text.isWord c = false
  name_ne : name ≠ []
  name_word : ∀ c ∈ name, Text.isWord c = true
  name_whole : ∀ c, after.head? = some c → Text.isWord c = false

variable {line before module name after : Text} {column : Int}

theorem dot_not_mem_of_word {word : Text} (h : ∀ c ∈ word, Text.isWord c = true) : '.' ∉ word :=
  fun hmem => absurd (h '.' hmem) (by decide)

/-- Up to the end of the function, the dot before it is the last. -/
theorem Spells.dotted (h : Spells line before module name after)
    (hfrom : ((before ++ module).length : Int) < column)
    (hto : column ≤ (before ++ module).length + 1 + name.length) :
    Dotted line column before module [] name after := by
  have hlast : '.' ∉ (line.take column.toNat).drop ((before ++ module).length + 1) := by
    rw [List.drop_take, h.spelled, drop_dot, List.take_append_of_le_length (by omega)]
    intro hmem
    exact dot_not_mem_of_word h.name_word (List.mem_of_mem_take hmem)
  exact ⟨h.spelled, hfrom, hlast, h.module_ne, h.module_word, h.module_whole, by simp, h.name_ne,
    h.name_word, h.name_whole⟩

/-- The function under the cursor is the one that a lookup by the two names finds. -/
theorem reference?_of_accesses {r : Registry} {source : Text} {number : Int} (hc : 0 ≤ column)
    (hline : line? source number = some line) (h : Accesses line column module name) :
    reference? r source number column =
      (findFunction? r module name).map fun f => ⟨module, f⟩ := by
  have hnames := (names?_eq_some_iff hc).mpr h
  simp only [reference?, hline, hnames, findFunction?, Option.bind_eq_bind, Option.bind_some]
  cases r.functions? module with
  | none => rfl
  | some functions =>
    simp only [Option.bind_some]
    cases functions.get? name <;> rfl

theorem Spells.reference?_eq (h : Spells line before module name after)
    (hfrom : ((before ++ module).length : Int) < column)
    (hto : column ≤ (before ++ module).length + 1 + name.length) {source : Text} {number : Int}
    (hline : line? source number = some line) (r : Registry) :
    reference? r source number column =
      (findFunction? r module name).map fun f => ⟨module, f⟩ :=
  reference?_of_accesses (by omega) hline ⟨before, [], after, h.dotted hfrom hto⟩

/-- With the cursor anywhere from the dot to the end of a function that the line spells, the reference is to
the function of this name in the module of this name in lower case, if there is one. The commands that are
given the same names as a target or one by one answer from the same function of their index. -/
theorem lookups_agree (settings : Settings) (calls : List (FileTree × Registry.Call)) (source : Text)
    (number column : Int) (line before module name after : Text)
    (hline : line? source number = some line) (h : Spells line before module name after)
    (hfrom : ((before ++ module).length : Int) < column)
    (hto : column ≤ (before ++ module).length + 1 + name.length) :
    let r := (Registry.empty settings).run calls
    let target := module ++ '.' :: name
    (∀ m ∈ r.sortedModules, Text.lower m.name = Text.lower module →
        reference? r source number column = (m.functions.get? name).map fun f => ⟨module, f⟩) ∧
      ((∀ m ∈ r.sortedModules, Text.lower m.name ≠ Text.lower module) →
        reference? r source number column = none) ∧
      (∀ host t root json, (Request.locate target root json).run host t =
        (t, withIndex host t root [] fun p r' => locateAnswer p target json
          ((reference? r' source number column).map Reference.function))) ∧
      (∀ host t root json, (Request.info module (some name) root json).run host t =
        (t, withIndex host t root [] fun _ r' => infoAnswer r' module name json
          ((reference? r' source number column).map Reference.function))) ∧
      ∀ json,
        Invocation.ofLine ("locate".toList :: target :: jsonArguments json) =
            .request (.locate target none json) ∧
          Invocation.ofLine ("info".toList :: module :: name :: jsonArguments json) =
            .request (.info module (some name) none json) := by
  intro r target
  have hcoherent := Registry.coherent_run settings calls
  have hfound := fun r' => h.reference?_eq hfrom hto hline r'
  have hsame : ∀ r', (reference? r' source number column).map Reference.function =
      findFunction? r' module name := by
    intro r'
    rw [hfound, Option.map_map]
    exact Option.map_id'
  have hword := isOption_word h.module_word
  refine ⟨?_, ?_, ?_, ?_, ?_⟩
  · intro m hm hname
    have hmodule : r.module? module = some m := hcoherent.module?_eq_some_iff.mpr ⟨hm, hname⟩
    rw [hfound, findFunction?, Registry.functions?, hmodule]
    rfl
  · intro hnone
    have hmodule : r.module? module = none := by
      rw [Option.eq_none_iff_forall_ne_some]
      intro m hm
      obtain ⟨hmem, hname⟩ := hcoherent.module?_eq_some_iff.mp hm
      exact hnone m hmem hname
    rw [hfound, findFunction?, Registry.functions?, hmodule]
    rfl
  · intro host t root json
    simp only [Request.run, hsame]
    rw [runLocate_eq (dot_not_mem_of_word h.name_word)]
  · intro host t root json
    simp only [Request.run, hsame]
    rw [runInfo_eq]
  · intro json
    have hmodule := hword [] h.module_ne
    have hname := isOption_word h.name_word [] h.name_ne
    rw [List.append_nil] at hmodule hname
    exact ⟨ofLine_locate (hword _ h.module_ne) json, ofLine_info hmodule hname json⟩

/-- A reference between others, in other case than the module declares it. -/
def crowded : Text :=
  "x.y PACK.go.z()".toList

/-- It leads to the function of the module, as the target does that it spells. -/
theorem crowded_reference_found :
    Spells crowded "x.y ".toList "PACK".toList "go".toList ".z()".toList ∧
      (∃ m, m ∈ ((Registry.empty .default).run (moved.take 1)).sortedModules ∧
        Text.lower m.name = "pack".toList ∧
        reference? ((Registry.empty .default).run (moved.take 1)) crowded 0 11 =
          (m.functions.get? "go".toList).map fun f => ⟨"PACK".toList, f⟩) ∧
      (reference? ((Registry.empty .default).run (moved.take 1)) crowded 0 11).isSome = true ∧
      Invocation.ofLine ["locate".toList, "PACK.go".toList] =
        .request (.locate "PACK.go".toList none false) := by
  have hline : line? crowded 0 = some crowded := by decide +kernel
  have hspells : Spells crowded "x.y ".toList "PACK".toList "go".toList ".z()".toList := by
    constructor
    case spelled => decide
    case module_ne => decide
    case module_word => exact List.all_eq_true.mp (by decide)
    case module_whole =>
      intro c hc
      obtain rfl : ' ' = c := Option.some.inj hc
      decide
    case name_ne => decide
    case name_word => exact List.all_eq_true.mp (by decide)
    case name_whole =>
      intro c hc
      obtain rfl : '.' = c := Option.some.inj hc
      decide
  have hmodule : (((Registry.empty .default).run (moved.take 1)).module? "PACK".toList).isSome =
      true := by decide +kernel
  obtain ⟨m, hm⟩ := Option.isSome_iff_exists.mp hmodule
  obtain ⟨hmem, hname⟩ :=
    (Registry.coherent_run .default (moved.take 1)).module?_eq_some_iff.mp hm
  obtain ⟨hfound, -, -, -, hlines⟩ := lookups_agree .default (moved.take 1) crowded 0 11 crowded _ _ _
    _ hline hspells (by decide) (by decide)
  have hlower : Text.lower "PACK".toList = "pack".toList := by decide +kernel
  exact ⟨hspells, ⟨m, hmem, hname.trans hlower, hfound m hmem hname⟩, by decide +kernel,
    (hlines false).1⟩

end LuaIndex.Cursor
