import LuaIndex.Proofs.Conversion.Exported
import LuaIndex.Proofs.Source.Calls

namespace LuaIndex

theorem Range.overlaps_onLine {i j a b c d : Int} (h : c < d) :
    (Range.onLine i a b).overlaps (.onLine j c d) = true ↔
      i = j ∧ if a = b then c < a ∧ a < d else a < d ∧ c < b := by
  have hfull : (Range.onLine j c d).isEmpty = false := by
    simp only [isEmpty, onLine, beq_eq_false_iff_ne, ne_eq, Position.eq_iff]
    omega
  by_cases hab : a = b
  · subst hab
    have hempty : (Range.onLine i a a).isEmpty = true := by simp [isEmpty, onLine]
    simp only [overlaps, hempty, hfull, Bool.and_false, Bool.false_eq_true, if_false, if_true]
    simp only [onLine, Bool.and_eq_true, Position.lt_iff]
    omega
  · have hempty : (Range.onLine i a b).isEmpty = false := by simp [isEmpty, onLine, hab]
    simp only [overlaps, hempty, hfull, Bool.and_false, Bool.false_eq_true, if_false, hab]
    simp only [onLine, Bool.and_eq_true, Position.lt_iff]
    omega

/-- The name at a span of a line is that of a definition: it comes after the keyword and white space. -/
structure Definition.NameAt (line : Text) (s : Span) : Prop where
  whole : Text.WholeAt line s
  defined : ∃ before gap, line.take s.start = before ++ keyword ++ gap ∧ gap ≠ [] ∧
    ∀ c ∈ gap, Text.isBlank c = true

namespace Conversion

/-- White space lets a bare call start after it. -/
theorem admits_of_isBlank {c : Char} (h : Text.isBlank c = true) : CallSite.admits (some c) = true := by
  have hdot : c ≠ '.' := by
    rintro rfl
    revert h
    decide
  have hcolon : c ≠ ':' := by
    rintro rfl
    revert h
    decide
  simp [CallSite.admits, Text.isWord_of_isBlank h, hdot, hcolon]

theorem isCall_nameAt_iff {names : List Text} {l : Text} {s : Span} (h : Definition.NameAt l s) :
    CallSite.IsCall names l s ↔ s.name ∈ names ∧ l[s.stop]? = some '(' := by
  obtain ⟨p, r, rfl, hstart, -, -⟩ := h.whole.spelled
  have hstop := h.whole.stop
  have hnext : (p ++ (s.name ++ r))[s.stop]? = r.head? := by
    rw [hstop, hstart, List.getElem?_append_right (by omega), List.getElem?_append_right (by omega),
      List.head?_eq_getElem?]
    congr 1
    omega
  constructor
  · rintro ⟨hmem, -, p', r', hsame, hstart', -⟩
    refine ⟨hmem, ?_⟩
    obtain ⟨-, htail⟩ := List.append_inj hsame (by omega)
    rw [hnext, List.append_cancel_left htail]
    rfl
  · rintro ⟨hmem, hparen⟩
    rw [hnext] at hparen
    obtain ⟨r', rfl⟩ := List.head?_eq_some_iff.mp hparen
    obtain ⟨before, gap, hbefore, hgap, hblank⟩ := h.defined
    rw [hstart, List.take_left] at hbefore
    refine ⟨hmem, hstop, p, r', rfl, hstart, ?_⟩
    rw [hbefore, List.getLast?_append_of_ne_nil _ hgap, List.getLast?_eq_some_getLast hgap]
    exact admits_of_isBlank (hblank _ (List.getLast_mem hgap))

/-- On a line that the pass over calls looks at, what it claims of the name of a definition is all of it. -/
theorem overlaps_nameAt {module l : Text} {names : List Text} (hn : ∀ n ∈ names, IsName n)
    (hk : LineKind.of l = .other) {s : Span} (hs : Definition.NameAt l s) {line : Nat} {x : Splice}
    (hx : x ∈ lineSplices module names l ∨ x = exportSplice module l)
    (ho : (x.onLine line).range.overlaps (s.range line) = true) :
    s ∈ CallSite.find names l ∧ x = ⟨s.start, s.stop, qualified module s.name⟩ := by
  have hlen : s.start < s.stop ∧ s.stop ≤ l.length := by
    obtain ⟨p, r, rfl, hstart, -⟩ := hs.whole.spelled
    have hpos := hs.whole.length_pos
    have hstop := hs.whole.stop
    simp only [List.length_append]
    omega
  obtain ⟨-, hcols⟩ := (Range.overlaps_onLine (by omega)).mp ho
  rcases hx with hx | rfl
  · simp only [lineSplices, hk] at hx
    obtain ⟨t, ht, rfl⟩ := List.mem_map.mp hx
    have hcall := (CallSite.isCall_of_mem_find ht).wholeAt hn
    have hpos := hcall.length_pos
    have hstop := hcall.stop
    rw [if_neg (by dsimp only; omega)] at hcols
    obtain rfl : t = s := hcall.eq_of_meet hs.whole (by dsimp only at hcols; omega)
      (by dsimp only at hcols; omega)
    exact ⟨ht, rfl⟩
  · -- the statement at the end is put in front of a line or after it
    exfalso
    unfold exportSplice at hcols
    split at hcols
    · rw [if_pos rfl] at hcols
      dsimp only at hcols
      omega
    · rw [if_pos rfl] at hcols
      dsimp only at hcols
      omega

/-- Among the edits of a text, one claims part of the name of a definition, on a line that has no statement
and no top-level definition, exactly if a top-level function of the text has the same name and the
parenthesis comes right after it. The edit then makes this name a field of the table. -/
theorem overlaps_definedName_iff (source : Text) :
    match moduleName? source with
    | none => edits source = .ok []
    | some module =>
      ∃ es, edits source = .ok es ∧
        ∀ (line : Nat) (l : Text) (s : Span) (e : Edit), (Text.lines source)[line]? = some l →
          LineKind.of l = .other → Definition.NameAt l s →
          (e ∈ es ∧ e.range.overlaps (s.range line) = true ↔
            e = ⟨s.range line, qualified module s.name⟩ ∧
              s.name ∈ topLevelNames (Text.lines source) ∧ l[s.stop]? = some '(') := by
  cases hm : moduleName? source with
  | none => simp [edits, hm]
  | some module =>
    obtain ⟨ls, last, hl⟩ := Text.exists_lines_eq_concat source
    refine ⟨_, edits_eq_documentEdits hm hl, ?_⟩
    rw [hl]
    intro line l s e hline hk hs
    have hn : ∀ n ∈ topLevelNames (ls ++ [last]), IsName n := fun n => ne_nil_of_mem_topLevelNames
    have hpos := hs.whole.length_pos
    have hstop := hs.whole.stop
    rw [mem_documentEdits]
    constructor
    · rintro ⟨⟨pre, l', post, x, hsplit, rfl, hx⟩, ho⟩
      rw [Nat.zero_add] at ho ⊢
      have hsame := ((Range.overlaps_onLine (by omega)).mp ho).1
      obtain rfl : pre.length = line := by omega
      obtain rfl : l' = l := by simpa [hsplit] using hline
      obtain ⟨hfound, rfl⟩ := overlaps_nameAt hn hk hs (hx.imp id And.right) ho
      exact ⟨rfl, (isCall_nameAt_iff hs).mp (CallSite.isCall_of_mem_find hfound)⟩
    · rintro ⟨rfl, hcall⟩
      obtain ⟨pre, post, hsplit, rfl⟩ := Text.exists_append_of_getElem? hline
      have hfound := (CallSite.mem_find_iff hn).mpr ((isCall_nameAt_iff hs).mpr hcall)
      refine ⟨⟨pre, l, post, ⟨s.start, s.stop, qualified module s.name⟩, hsplit, ?_, Or.inl ?_⟩, ?_⟩
      · rw [Nat.zero_add]
        rfl
      · simp only [lineSplices, hk]
        exact List.mem_map_of_mem hfound
      · refine (Range.overlaps_onLine (by omega)).mpr ⟨rfl, ?_⟩
        rw [if_neg (by omega)]
        omega

/-- A text with a function and a local one of the same name. -/
def localNamesake : Text :=
  "module('M');\nfunction foo()\nend\nlocal function foo()\nend".toList

/-- The name of the local function becomes a field, which no local function can be. -/
theorem local_definition_qualified :
    (Text.lines localNamesake)[3]? = some "local function foo()".toList ∧
      LineKind.of "local function foo()".toList = .other ∧
      Definition.NameAt "local function foo()".toList ⟨"foo".toList, 15, 18⟩ ∧
      ∃ es, edits localNamesake = .ok es ∧ ⟨.onLine 3 15 18, "M.foo".toList⟩ ∈ es := by
  have hword : ∀ c ∈ "foo".toList, Text.isWord c = true := List.all_eq_true.mp (by decide)
  have hbefore : ∀ c, "local function ".toList.getLast? = some c → Text.isWord c = false := by
    intro c hc
    obtain rfl := Option.some.inj hc
    decide
  have hafter : ∀ c, "()".toList.head? = some c → Text.isWord c = false := by
    intro c hc
    obtain rfl := Option.some.inj hc
    decide
  have hgap : ∀ c ∈ [' '], Text.isBlank c = true := List.forall_mem_singleton.mpr (by decide)
  refine ⟨by decide, by decide +kernel, ⟨⟨by decide, hword, by decide, ?_⟩, ?_⟩, ?_⟩
  · exact ⟨"local function ".toList, "()".toList, by decide, by decide, hbefore, hafter⟩
  · exact ⟨"local ".toList, [' '], by decide, by decide, hgap⟩
  · have hlines : Text.lines localNamesake =
        ["module('M');".toList, "function foo()".toList, "end".toList,
          "local function foo()".toList] ++ ["end".toList] := by
      decide
    have hname : moduleName? localNamesake = some "M".toList := by decide +kernel
    exact ⟨_, edits_eq_documentEdits hname hlines, by decide +kernel⟩

end Conversion

end LuaIndex
