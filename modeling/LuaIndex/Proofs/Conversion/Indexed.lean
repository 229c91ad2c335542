import LuaIndex.Proofs.Conversion.Naming
import LuaIndex.Proofs.Module.Definitions
import LuaIndex.Proofs.Source.Tags
import Mathlib.Tactic.MkIffOfInductiveProp

namespace LuaIndex

namespace Definition

/-- Nothing stands before a span but the keyword, at the start of the line, and white space. -/
def StartsLine (l : Text) (span : Span) : Prop :=
  ∃ gap, l.take span.start = keyword ++ gap ∧ ∀ c ∈ gap, Text.isBlank c = true

theorem find?_eq_some_of_findTopLevel? {l : Text} {span : Span} (h : findTopLevel? l = some span) :
    find? l = some span := by
  have hfirst : Text.search read? 0 l = some (0, span) := by
    rw [Text.search_eq_some_iff]
    exact ⟨[], l, rfl, rfl, h, fun q s _ hlt => absurd hlt (Nat.not_lt_zero _)⟩
  simp [find?, hfirst, Span.shift]

theorem endsSolid_keyword : Text.EndsSolid keyword := by
  intro c hc
  obtain rfl := Option.some.inj hc
  decide

/-- The two searches agree on the definitions that start their line. -/
theorem findTopLevel?_eq_some_iff {l : Text} {span : Span} :
    findTopLevel? l = some span ↔ find? l = some span ∧ StartsLine l span := by
  constructor
  · intro h
    obtain ⟨gap, gap', rest, hgap, -, -, -, -, hl, hstart, -⟩ := read?_eq_some h
    refine ⟨find?_eq_some_of_findTopLevel? h, gap, ?_, hgap⟩
    rw [hstart, hl, List.take_left]
  · intro h
    obtain ⟨hfind, gap, htake, hgap⟩ := h
    obtain ⟨⟨i, found⟩, hs, rfl⟩ := Option.map_eq_some_iff.mp hfind
    obtain ⟨p, r, rfl, rfl, hr, -⟩ := Text.search_eq_some_iff.mp hs
    obtain ⟨gap', gap'', rest, hgap', -, -, -, -, hspelled, hstart, -⟩ := read?_eq_some hr
    have hlength : (found.shift (0 + p.length)).start = (p ++ (keyword ++ gap')).length := by
      simp only [Span.shift, hstart, Nat.zero_add, List.length_append]
    rw [hspelled, ← List.append_assoc p, hlength, List.take_left, ← List.append_assoc] at htake
    -- without the white space at their ends both sides end with the keyword
    have hstrip := congrArg Text.stripRight htake
    rw [Text.stripRight_append_of_endsSolid (endsSolid_keyword.append (by decide) p) hgap',
      Text.stripRight_append_of_endsSolid endsSolid_keyword hgap] at hstrip
    obtain rfl := List.append_left_eq_self.mp hstrip
    simpa [findTopLevel?, Span.shift] using hr

end Definition

namespace Conversion

theorem LineKind.of_eq_definition_iff {l : Text} {span : Span} :
    LineKind.of l = .definition span ↔
      Declaration.findStatement? l = none ∧ Definition.findTopLevel? l = some span := by
  unfold LineKind.of
  cases Declaration.findStatement? l with
  | some found => simp
  | none => cases Definition.findTopLevel? l <;> simp

/-- The edit that the pass for declarations makes on a line: a statement becomes a table, and the name of a
definition at the start becomes a field. -/
@[mk_iff]
inductive DeclarationEdit (module : Text) (line : Nat) (l : Text) : Edit → Prop where
  | table {span : Span} (h : LineKind.of l = .statement span) :
    DeclarationEdit module line l ⟨span.range line, tableText span.name⟩
  | field {span : Span} (h : LineKind.of l = .definition span) :
    DeclarationEdit module line l ⟨span.range line, qualified module span.name⟩

variable {module source name : Text} {k line : Nat} {ls : List Text} {l : Text} {e : Edit}

theorem DeclarationEdit.line_eq (h : DeclarationEdit module line l e) : e.range.start.line = line := by
  cases h <;> rfl

theorem mem_declarationEdits_cons :
    e ∈ declarationEdits module k (l :: ls) ↔
      DeclarationEdit module k l e ∨ e ∈ declarationEdits module (k + 1) ls := by
  rw [declarationEdit_iff]
  cases hk : LineKind.of l with
  | statement span => simp [declarationEdits, hk]
  | definition span => simp [declarationEdits, hk]
  | other => simp [declarationEdits, hk]

/-- The pass makes the edits of the lines, each at the number of its line. -/
theorem mem_declarationEdits :
    e ∈ declarationEdits module k ls ↔ ∃ i l, ls[i]? = some l ∧ DeclarationEdit module (k + i) l e := by
  induction ls generalizing k with
  | nil => simp [declarationEdits]
  | cons l ls ih =>
    rw [mem_declarationEdits_cons, ih]
    constructor
    · intro h
      rcases h with h | ⟨i, l', hl', h⟩
      · exact ⟨0, l, rfl, h⟩
      · rw [Nat.add_assoc, Nat.add_comm 1] at h
        exact ⟨i + 1, l', hl', h⟩
    · intro h
      obtain ⟨i, l', hl', h⟩ := h
      cases i with
      | zero =>
        obtain rfl := Option.some.inj hl'
        exact Or.inl h
      | succ i =>
        rw [Nat.add_comm i, ← Nat.add_assoc] at h
        exact Or.inr ⟨i, l', hl', h⟩

/-- A conversion keeps what the pass found. -/
theorem mem_edits_of_mem_declarationEdits {es : List Edit} (hm : moduleName? source = some module)
    (hes : edits source = .ok es) (he : e ∈ declarationEdits module 0 (Text.lines source)) : e ∈ es := by
  obtain ⟨front, last, hl⟩ := Text.exists_lines_eq_concat source
  have hdocument := edits_eq_documentEdits hm hl
  obtain rfl := Except.ok.inj (hes.symm.trans hdocument)
  have hperm := passes_perm_documentEdits module (topLevelNames (front ++ [last])) 0 front last
  rw [hl] at he
  refine hperm.subset ?_
  simp [he]

/-- The pass for declarations makes the name on this line a field of the module. -/
structure QualifiesDefinition (source module : Text) (line : Nat) (name : Text) (e : Edit) : Prop where
  found : e ∈ declarationEdits module 0 (Text.lines source)
  onLine : e.range.start.line = line
  field : e.text = qualified module name

/-- It does so exactly if the line has no statement and starts with a definition of the name. -/
theorem qualifiesDefinition_iff :
    QualifiesDefinition source module line name e ↔
      ∃ l span, (Text.lines source)[line]? = some l ∧ Declaration.findStatement? l = none ∧
        Definition.findTopLevel? l = some span ∧ span.name = name ∧
        e = ⟨span.range line, qualified module name⟩ := by
  constructor
  · intro h
    obtain ⟨i, l, hl, hedit⟩ := mem_declarationEdits.mp h.found
    rw [Nat.zero_add] at hedit
    have honLine := h.onLine
    have hfield := h.field
    obtain rfl : i = line := by
      have hline := hedit.line_eq
      omega
    cases hedit with
    | @table span hk =>
      have hname := isName_of_findStatement? (LineKind.of_eq_statement hk)
      exact absurd hfield.symm (qualified_ne_tableText hname module name)
    | @field span hk =>
      obtain ⟨hno, hdefinition⟩ := LineKind.of_eq_definition_iff.mp hk
      obtain rfl : span.name = name := (List.cons.inj (List.append_cancel_left hfield)).2
      exact ⟨l, span, hl, hno, hdefinition, rfl, rfl⟩
  · intro h
    obtain ⟨l, span, hl, hno, hdefinition, rfl, rfl⟩ := h
    have hk := LineKind.of_eq_definition_iff.mpr ⟨hno, hdefinition⟩
    refine ⟨mem_declarationEdits.mpr ⟨line, l, hl, ?_⟩, rfl, rfl⟩
    rw [Nat.zero_add]
    exact .field hk

/-- What is converted to a module is indexed as one. -/
theorem exists_scan?_of_moduleName? (lookback : Lookback) (path : Text)
    (hm : moduleName? source = some module) : ∃ info, ModuleInfo.scan? lookback path source = some info := by
  cases hname : Declaration.findName? source with
  | some declared => exact ⟨_, by rw [ModuleInfo.scan?, hname]; rfl⟩
  | none =>
    rw [moduleName?_eq_find?, Declaration.findName?_eq_none_iff.mp hname] at hm
    cases hm

/-- A text that can be converted is indexed, and the index lists each name that the conversion makes a field
where it is defined. The function listed under a name is located on the last line that defines it. This line
has such an edit exactly if it has no statement and nothing but the keyword and white space stands before the
name there, and then it is the edit of this name and replaces exactly what the location covers. -/
theorem qualified_names_indexed (lookback : Lookback) (path source : Text) :
    match moduleName? source with
    | none => edits source = .ok []
    | some module =>
      ∃ es info, edits source = .ok es ∧ es ≠ [] ∧
        ModuleInfo.scan? lookback path source = some info ∧
        (∀ line name e, QualifiesDefinition source module line name e →
          e ∈ es ∧ e.range.Covers source name ∧ name ∈ info.functions.keys) ∧
        ∀ name f, (name, f) ∈ info.functions →
          ∃ index l span, (Text.lines source)[index]? = some l ∧
            ModuleInfo.LastDefined (Text.lines source) name index span ∧
            f.location = ⟨path, span.range index⟩ ∧
            ∀ name' e, QualifiesDefinition source module index name' e ↔
              (Declaration.findStatement? l = none ∧ Definition.StartsLine l span) ∧
                name' = name ∧ e = ⟨f.location.range, qualified module name⟩ := by
  cases hm : moduleName? source with
  | none => simp [edits, hm]
  | some module =>
    obtain ⟨front, last, hlines⟩ := Text.exists_lines_eq_concat source
    have hes := edits_eq_documentEdits hm hlines
    obtain ⟨info, hinfo⟩ := exists_scan?_of_moduleName? lookback path hm
    refine ⟨_, info, hes, documentEdits_ne_nil _ _ _ _ _, hinfo, ?_, ?_⟩
    · intro line name e he
      obtain ⟨l, span, hl, -, hdefinition, rfl, rfl⟩ := qualifiesDefinition_iff.mp he
      have hfind := Definition.find?_eq_some_of_findTopLevel? hdefinition
      refine ⟨mem_edits_of_mem_declarationEdits hm hes he.found, ?_, ?_⟩
      · exact Definition.covers_of_find? hl hfind
      · exact (ModuleInfo.mem_keys_of_scan? hinfo).mpr ⟨l, List.mem_of_getElem? hl, span, hfind, rfl⟩
    · intro name f hf
      obtain ⟨index, span, hlast, rfl⟩ := ModuleInfo.exists_function_of_scan? hinfo hf
      obtain ⟨l, hl, hfind⟩ := hlast.defined
      obtain rfl := hlast.named
      refine ⟨index, l, span, hl, hlast, rfl, ?_⟩
      intro name' e
      rw [qualifiesDefinition_iff]
      constructor
      · intro h
        obtain ⟨l', span', hl', hno, hdefinition, rfl, rfl⟩ := h
        obtain rfl : l = l' := Option.some.inj (hl.symm.trans hl')
        obtain ⟨hfind', hstarts⟩ := Definition.findTopLevel?_eq_some_iff.mp hdefinition
        obtain rfl : span = span' := Option.some.inj (hfind.symm.trans hfind')
        exact ⟨⟨hno, hstarts⟩, rfl, rfl⟩
      · intro h
        obtain ⟨⟨hno, hstarts⟩, rfl, rfl⟩ := h
        have hdefinition := Definition.findTopLevel?_eq_some_iff.mpr ⟨hfind, hstarts⟩
        exact ⟨l, span, hl, hno, hdefinition, rfl, rfl⟩

-- A function defined again further in: its name becomes a field on one line and is located on another.
example :
    let source := "module('M');\nfunction f()\nend\n  function f()\n  end".toList
    declarationEdits "M".toList 0 (Text.lines source) =
        [⟨.onLine 0 0 12, "M = \x7b\x7d;".toList⟩, ⟨.onLine 1 9 10, "M.f".toList⟩] ∧
      (ModuleInfo.functionTable 10 [] source).map (fun f => (f.1, f.2.location.range)) =
        [("f".toList, .onLine 3 11 12)] := by
  decide +kernel

end Conversion

end LuaIndex
