import LuaIndex.Proofs.Conversion.Exported
import LuaIndex.Proofs.Source.Calls

namespace LuaIndex

/-- A whole name is what stands between the columns of its span. -/
theorem Text.WholeAt.cut_eq {t : Text} {s : Span} (h : WholeAt t s) :
    cut t s.start s.stop = s.name := by
  obtain ⟨p, r, rfl, hstart, -, -⟩ := h.spelled
  rw [h.stop, hstart]
  exact cut_middle p s.name r

theorem Text.WholeAt.bounds {t : Text} {s : Span} (h : WholeAt t s) :
    s.start < s.stop ∧ s.stop ≤ t.length := by
  obtain ⟨p, r, rfl, hstart, -, -⟩ := h.spelled
  have hpos := h.length_pos
  have hstop := h.stop
  simp only [List.length_append]
  omega

/-- The name in a definition at the start of a line stands whole there. -/
theorem Definition.wholeAt_of_read? {t : Text} {span : Span} (h : read? t = some span) :
    Text.WholeAt t span := by
  obtain ⟨gap, gap', rest, hgap, hne, hword, hname, hgap', rfl, hstart, hstop⟩ := read?_eq_some h
  refine ⟨hname, hword, hstop, keyword ++ gap, gap' ++ '(' :: rest, rfl, hstart, ?_, ?_⟩
  · intro c hc
    rw [List.getLast?_append_of_ne_nil _ hne] at hc
    exact Text.isWord_of_isBlank (hgap c (List.mem_of_getLast? hc))
  · intro c hc
    cases gap' with
    | nil => exact CallSite.stops_paren rest c hc
    | cons d gap' =>
      obtain rfl : d = c := by simpa using hc
      exact Text.isWord_of_isBlank (hgap' d List.mem_cons_self)

/-- What stands between the columns of a statement is a declaration and its semicolon. -/
theorem Declaration.read?_cut {t : Text} {span : Span} (h : findStatement? t = some span) :
    read? (Text.cut t span.start span.stop) = some ⟨span.name, [';']⟩ := by
  obtain ⟨p, r, rest, rfl, hstart, hread, hstop, -⟩ := findStatement?_eq_some h
  obtain ⟨w, hw, rfl⟩ := read?_eq_some_iff_append.mp hread
  have hsplit : p ++ (w ++ ';' :: rest) = p ++ ((w ++ [';']) ++ rest) := by simp
  have hend : span.stop = p.length + (w ++ [';']).length := by
    rw [hsplit] at hstop
    simp only [List.length_append] at hstop ⊢
    omega
  rw [hstart, hend, hsplit, Text.cut_middle]
  exact read?_eq_some_iff_append.mpr ⟨w, hw, rfl⟩

/-- A range before another starts before it, too. -/
theorem Range.Before.start_lt {a b : Range} (h : a.Before b) :
    a.start.lt b.start = true ∧ a.stop.le b.start = true := by
  refine ⟨?_, h.2⟩
  have hfull := h.1
  have hstop := h.2
  simp only [Position.lt_iff, Position.le_iff] at *
  omega

namespace Conversion

/-- An edit that replaces part of a line: the first module statement on it, which becomes a table, or a
whole name, which becomes a field of the module. -/
def Placed (source module : Text) (e : Edit) : Prop :=
  ∃ (line : Nat) (l : Text) (start stop : Nat),
    (Text.lines source)[line]? = some l ∧ e.range = .onLine line start stop ∧
    start < stop ∧ stop ≤ l.length ∧
    ((∃ name, Declaration.findStatement? l = some ⟨name, start, stop⟩ ∧
        Declaration.read? (Text.cut l start stop) = some ⟨name, [';']⟩ ∧ e.text = tableText name) ∨
      (Text.WholeAt l ⟨Text.cut l start stop, start, stop⟩ ∧
        e.text = module ++ '.' :: Text.cut l start stop))

variable {source module : Text} {names : List Text}

theorem Placed.not_isEmpty {e : Edit} (h : Placed source module e) : e.range.isEmpty = false := by
  obtain ⟨line, l, start, stop, -, hrange, hlt, -⟩ := h
  have hne : (start : Int) ≠ stop := by omega
  simp [hrange, Range.isEmpty, Range.onLine, hne]

/-- A whole name that becomes a field is replaced properly. -/
theorem placed_of_wholeAt {l : Text} {pre post : List Text}
    (hl : Text.lines source = pre ++ l :: post) {span : Span} (h : Text.WholeAt l span) :
    Placed source module
      (Splice.onLine pre.length ⟨span.start, span.stop, qualified module span.name⟩) := by
  have hbounds := h.bounds
  refine ⟨pre.length, l, span.start, span.stop, by simp [hl], rfl, hbounds.1, hbounds.2, Or.inr ?_⟩
  rw [h.cut_eq]
  exact ⟨h, rfl⟩

/-- Each of the replacements on a line. -/
theorem placed_of_mem_lineSplices (hn : ∀ n ∈ names, IsName n) {l : Text} {pre post : List Text}
    (hl : Text.lines source = pre ++ l :: post) {s : Splice} (hs : s ∈ lineSplices module names l) :
    Placed source module (s.onLine pre.length) := by
  unfold lineSplices at hs
  split at hs
  case h_1 span hk =>
    obtain rfl := List.mem_singleton.mp hs
    have hfound := LineKind.of_eq_statement hk
    have hbounds := Declaration.findStatement?_bounds hfound
    refine ⟨pre.length, l, span.start, span.stop, by simp [hl], rfl, hbounds.1, hbounds.2.1, Or.inl ?_⟩
    exact ⟨span.name, hfound, Declaration.read?_cut hfound, rfl⟩
  case h_2 span hk =>
    obtain rfl := List.mem_singleton.mp hs
    exact placed_of_wholeAt hl (Definition.wholeAt_of_read? (LineKind.of_eq_definition hk))
  case h_3 =>
    obtain ⟨span, hspan, rfl⟩ := List.mem_map.mp hs
    exact placed_of_wholeAt hl ((CallSite.isCall_of_mem_find hspan).wholeAt hn)

/-- The edits of a document are replacements and, at the end, the insertion. -/
theorem exists_documentEdits_eq_concat (module : Text) (hn : ∀ n ∈ names, IsName n) {last : Text}
    (pre ls : List Text) (hl : Text.lines source = pre ++ (ls ++ [last])) :
    ∃ rs, documentEdits module names pre.length ls last =
        rs ++ [(exportSplice module last).onLine (pre ++ ls).length] ∧
      ∀ e ∈ rs, Placed source module e := by
  induction ls generalizing pre with
  | nil =>
    refine ⟨(lineSplices module names last).map (Splice.onLine pre.length), ?_, ?_⟩
    · simp [documentEdits, lastSplices]
    · intro e he
      obtain ⟨s, hs, rfl⟩ := List.mem_map.mp he
      exact placed_of_mem_lineSplices hn hl hs
  | cons l ls ih =>
    obtain ⟨rs, hrest, hplaced⟩ := ih (pre ++ [l]) (by simpa using hl)
    refine ⟨(lineSplices module names l).map (Splice.onLine pre.length) ++ rs, ?_, ?_⟩
    · rw [documentEdits, List.append_assoc]
      congr 1
      simpa using hrest
    · intro e he
      rcases List.mem_append.mp he with he | he
      · obtain ⟨s, hs, rfl⟩ := List.mem_map.mp he
        exact placed_of_mem_lineSplices hn hl hs
      · exact hplaced e he

theorem isEmpty_exportSplice (module last : Text) (line : Nat) :
    ((exportSplice module last).onLine line).range.isEmpty = true := by
  have hsame : (exportSplice module last).start = (exportSplice module last).stop := by
    unfold exportSplice
    split <;> rfl
  simp [Splice.onLine, Range.isEmpty, Range.onLine, hsame]

/-- A conversion always gives edits, none exactly if there is no statement. Else one of them inserts, the
one that returns the table on the last line, every other replaces a statement or a whole name of one line,
and each ends before the next one starts, or where it starts. -/
theorem edits_placed (source : Text) :
    ∃ es, edits source = .ok es ∧ (es = [] ↔ Declaration.findStatement? source = none) ∧
      ∀ module, moduleName? source = some module →
        es.filter (·.range.isEmpty) = [exportEdit module (Text.lines source)] ∧
        (exportEdit module (Text.lines source)).range.start.line = (Text.lines source).length - 1 ∧
        (∀ e ∈ es, e.range.isEmpty = false → Placed source module e) ∧
        es.Pairwise fun x y =>
          x.range.start.lt y.range.start = true ∧ x.range.stop.le y.range.start = true := by
  cases hm : moduleName? source with
  | none =>
    have hnone : Declaration.findStatement? source = none := Option.map_eq_none_iff.mp hm
    exact ⟨[], by simp [edits, hm], by simp [hnone], by simp⟩
  | some module =>
    obtain ⟨ls, last, hl⟩ := Text.exists_lines_eq_concat source
    have hn : ∀ n ∈ topLevelNames (ls ++ [last]), IsName n := fun n => ne_nil_of_mem_topLevelNames
    obtain ⟨rs, hrs, hplaced⟩ := exists_documentEdits_eq_concat module hn [] ls hl
    have hbefore : (documentEdits module (topLevelNames (ls ++ [last])) 0 ls last).Pairwise
        fun x y => x.range.Before y.range := documentEdits_pairwise (fun n h => (hn n h).1) 0 ls last
    have hexport : exportEdit module (ls ++ [last]) = (exportSplice module last).onLine ls.length :=
      exportEdit_concat ls last
    have hempty := isEmpty_exportSplice module last ls.length
    refine ⟨_, edits_eq_documentEdits hm hl, ?_, ?_⟩
    · have hsome : Declaration.findStatement? source ≠ none := by
        intro hnone
        simp [moduleName?, hnone] at hm
      simp [documentEdits_ne_nil, hsome]
    · intro module' hm'
      obtain rfl := Option.some.inj hm'
      change documentEdits module _ 0 ls last = _ at hrs
      rw [List.nil_append] at hrs
      rw [hl, hexport]
      refine ⟨?_, by simp [Splice.onLine, Range.onLine], ?_, hbefore.imp fun hxy => hxy.start_lt⟩
      · have hnone : rs.filter (·.range.isEmpty) = [] := by
          rw [List.filter_eq_nil_iff]
          intro e he
          simp [(hplaced e he).not_isEmpty]
        rw [hrs, List.filter_append, hnone, List.nil_append, List.filter_singleton, hempty]
        rfl
      · intro e he hfull
        rw [hrs] at he
        rcases List.mem_append.mp he with he | he
        · exact hplaced e he
        · rw [List.mem_singleton.mp he, hempty] at hfull
          cases hfull

end Conversion

end LuaIndex
