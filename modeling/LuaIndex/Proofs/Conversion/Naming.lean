import LuaIndex.Proofs.Conversion.Exported

namespace LuaIndex

namespace Declaration

/-- A search for declarations of some sort finds the first such declaration of the text. -/
theorem map_search_eq_find? {α : Type} {read : Text → Option α} {name : α → Text}
    {sort : Match → Bool}
    (hread : ∀ k t, (read t).map name = ((matchAt? k t).filter sort).map Match.name) (k : Nat)
    (t : Text) :
    (Text.search read k t).map (fun found => name found.2) =
      ((startsFrom k t).find? sort).map Match.name := by
  induction t generalizing k with
  | nil =>
    have hnil := hread k []
    have hnone : matchAt? k [] = none := rfl
    rw [hnone] at hnil
    simp only [Text.search, startsFrom, Option.map_map]
    exact hnil
  | cons c t ih =>
    have hhere := hread k (c :: t)
    simp only [Text.search, startsFrom, List.find?_append]
    cases hm : matchAt? k (c :: t) with
    | none =>
      rw [hm] at hhere
      have hnone : read (c :: t) = none := Option.map_eq_none_iff.mp hhere
      rw [hnone]
      exact ih (k + 1)
    | some m =>
      rw [hm] at hhere
      by_cases hs : sort m = true
      · simp only [Option.filter_some, hs, if_true] at hhere
        obtain ⟨a, ha, hname⟩ := Option.map_eq_some_iff.mp hhere
        simp [ha, hs, hname]
      · simp only [Option.filter_some, hs] at hhere
        have hnone : read (c :: t) = none := Option.map_eq_none_iff.mp hhere
        simp [hnone, hs, ih (k + 1)]

theorem findName?_eq_head? (t : Text) : findName? t = (findAll t).head?.map Match.name := by
  have hread : ∀ k t, (read? t).map Declaration.name =
      ((matchAt? k t).filter fun _ => true).map Match.name := by
    intro k t
    unfold matchAt?
    cases read? t <;> rfl
  have hfind := map_search_eq_find? hread 0 t
  rw [← findAll_eq_startsFrom] at hfind
  unfold findName?
  rw [hfind]
  cases findAll t <;> rfl

end Declaration

namespace Conversion

open Declaration

theorem moduleName?_eq_find? (t : Text) :
    moduleName? t = ((findAll t).find? Match.closed).map Match.name := by
  have hread : ∀ k t, (readStatement? t).map Span.name =
      ((matchAt? k t).filter Match.closed).map Match.name := by
    intro k t
    cases hr : read? t with
    | none => simp [readStatement?, matchAt?, hr]
    | some d =>
      obtain ⟨name, rest⟩ := d
      cases rest with
      | nil => simp [readStatement?, matchAt?, hr, Option.filter_some]
      | cons c rest =>
        by_cases hc : c = ';'
        · simp [readStatement?, matchAt?, hr, hc, Option.filter_some]
        · simp [readStatement?, matchAt?, hr, hc, Option.filter_some]
  have hfind := map_search_eq_find? hread 0 t
  rw [← findAll_eq_startsFrom] at hfind
  rw [← hfind, moduleName?, findStatement?, Option.map_map]
  rfl

/-- A text that can be converted declares a module for the index as well. The edits return the module of
the first statement; the index has the same name for it exactly if the first of the declarations without
a semicolon that come before this statement, should there be any, has that name too. -/
theorem scan?_name_iff (lookback : Lookback) (path source : Text) :
    match moduleName? source with
    | none => edits source = .ok []
    | some module =>
      ∃ es info before statement after, edits source = .ok es ∧
        exportEdit module (Text.lines source) ∈ es ∧
        ModuleInfo.scan? lookback path source = some info ∧
        findAll source = before ++ statement :: after ∧
        statement.closed = true ∧ statement.name = module ∧ (∀ m ∈ before, m.closed = false) ∧
        (info.name = module ↔ ∀ m, before.head? = some m → m.name = module) := by
  cases hm : moduleName? source with
  | none => simp [edits, hm]
  | some module =>
    obtain ⟨ls, last, hl⟩ := Text.exists_lines_eq_concat source
    rw [moduleName?_eq_find?] at hm
    obtain ⟨statement, hfind, rfl⟩ := Option.map_eq_some_iff.mp hm
    obtain ⟨hclosed, before, after, hall, hopen⟩ := List.find?_eq_some_iff_append.mp hfind
    have hm : moduleName? source = some statement.name := by
      rw [moduleName?_eq_find?, hfind, Option.map_some]
    have hexport : exportEdit statement.name (Text.lines source) ∈
        documentEdits statement.name (topLevelNames (ls ++ [last])) 0 ls last := by
      refine mem_documentEdits.mpr ⟨ls, last, [], exportSplice statement.name last, rfl, ?_,
        Or.inr ⟨rfl, rfl⟩⟩
      rw [hl, exportEdit_concat, Nat.zero_add]
    have hopen : ∀ m ∈ before, m.closed = false := by
      intro m hmem
      simpa using hopen m hmem
    -- the first declaration is one before the statement, or the statement itself
    obtain ⟨name, hname, hagree⟩ : ∃ name, findName? source = some name ∧
        (name = statement.name ↔ ∀ m, before.head? = some m → m.name = statement.name) := by
      rw [findName?_eq_head?, hall]
      cases before with
      | nil => exact ⟨statement.name, rfl, by simp⟩
      | cons m before => exact ⟨m.name, rfl, by simp⟩
    have hscan : ModuleInfo.scan? lookback path source =
        some ⟨name, path, ModuleInfo.functionTable lookback.limit path source⟩ := by
      simp [ModuleInfo.scan?, hname]
    exact ⟨_, _, before, statement, after, edits_eq_documentEdits hm hl, hexport, hscan, hall, hclosed,
      rfl, hopen, hagree⟩

/-- A text that declares one module without and then another with a semicolon. -/
def twoModules : Text :=
  "module('A')\nmodule('B');".toList

/-- It is indexed as the first and converted to the second. -/
theorem indexed_as_another_module :
    moduleName? twoModules = some "B".toList ∧
      edits twoModules = .ok [⟨.onLine 1 0 12, "B = \x7b\x7d;".toList⟩,
        ⟨.onLine 1 12 12, "\n\nreturn B;\n".toList⟩] ∧
      ModuleInfo.scan? (.lines 10) "x.lua".toList twoModules =
        some ⟨"A".toList, "x.lua".toList, []⟩ := by
  have hname : moduleName? twoModules = some "B".toList := by decide +kernel
  have hlines : Text.lines twoModules = ["module('A')".toList] ++ ["module('B');".toList] := by decide
  refine ⟨hname, ?_, by decide +kernel⟩
  rw [edits_eq_documentEdits hname hlines]
  decide +kernel

end Conversion

end LuaIndex
