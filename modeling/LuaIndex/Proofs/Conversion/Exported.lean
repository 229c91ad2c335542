import LuaIndex.Proofs.Conversion.Replaced

namespace LuaIndex.Conversion

open Declaration

/-- The edit puts a text in the place of a statement, its semicolon included. -/
def Replaces (source : Text) (e : Edit) (m : Match) (text : Text) : Prop :=
  m.closed = true ∧ Edit.resolve source e = .ok ⟨m.start, m.stop + 1, text⟩

/-- The edits define the table of a module. -/
def DefinesTable (source : Text) (es : List Edit) (module : Text) : Prop :=
  ∃ e ∈ es, ∃ m ∈ findAll source, Replaces source e m (tableText module)

theorem mem_documentEdits {module : Text} {names : List Text} {k : Nat} {ls : List Text}
    {last : Text} {e : Edit} :
    e ∈ documentEdits module names k ls last ↔
      ∃ pre l post s, ls ++ [last] = pre ++ l :: post ∧ e = s.onLine (k + pre.length) ∧
        (s ∈ lineSplices module names l ∨ post = [] ∧ s = exportSplice module l) := by
  induction ls generalizing k with
  | nil =>
    simp only [documentEdits, lastSplices, List.mem_map, List.mem_append, List.mem_singleton]
    constructor
    · rintro ⟨s, hs, rfl⟩
      exact ⟨[], last, [], s, rfl, rfl, hs.imp id fun h => ⟨rfl, h⟩⟩
    · rintro ⟨pre, l, post, s, hsplit, rfl, hs⟩
      obtain ⟨rfl, rfl, rfl⟩ : pre = [] ∧ l = last ∧ post = [] := by
        cases pre with
        | nil => simpa [eq_comm] using hsplit
        | cons b pre => simp at hsplit
      exact ⟨s, hs.imp id And.right, rfl⟩
  | cons a ls ih =>
    have hnext : ∀ n, k + 1 + n = k + (n + 1) := by omega
    simp only [documentEdits, List.mem_append, List.mem_map, ih]
    constructor
    · rintro (⟨s, hs, rfl⟩ | ⟨pre, l, post, s, hsplit, rfl, hs⟩)
      · exact ⟨[], a, ls ++ [last], s, rfl, rfl, Or.inl hs⟩
      · refine ⟨a :: pre, l, post, s, by rw [List.cons_append, hsplit]; rfl, ?_, hs⟩
        rw [List.length_cons, hnext]
    · rintro ⟨pre, l, post, s, hsplit, rfl, hs⟩
      cases pre with
      | nil =>
        obtain ⟨rfl, rfl⟩ := List.cons.inj hsplit
        rcases hs with hs | ⟨hpost, -⟩
        · exact Or.inl ⟨s, hs, rfl⟩
        · simp at hpost
      | cons b pre =>
        refine Or.inr ⟨pre, l, post, s, (List.cons.inj hsplit).2, ?_, hs⟩
        rw [List.length_cons, hnext]

/-- A field is never spelled like a table, which has no dot. -/
theorem qualified_ne_tableText {name : Text} (h : IsName name) (module field : Text) :
    qualified module field ≠ tableText name := by
  intro he
  have hno := h.not_mem (c := '.') (by decide)
  have hdot : '.' ∉ tableText name := by simp [tableText, hno]
  rw [← he] at hdot
  simp [qualified] at hdot

/-- Of all edits only that of a statement has a text like a table's. -/
theorem findStatement?_of_tableText {module : Text} {names : List Text} (hm : IsName module)
    {l : Text} {s : Splice} (hs : s ∈ lineSplices module names l ∨ s = exportSplice module l)
    (htext : s.text = tableText module) :
    ∃ span, findStatement? l = some span ∧ span.name = module ∧
      s = ⟨span.start, span.stop, tableText span.name⟩ := by
  have hfeed : '\n' ∉ tableText module := by
    have hno := hm.not_mem (c := '\n') (by decide)
    simp [tableText, hno]
  rcases hs with hs | rfl
  · unfold lineSplices at hs
    split at hs
    case h_1 span hk =>
      obtain rfl := List.mem_singleton.mp hs
      exact ⟨span, LineKind.of_eq_statement hk, List.append_cancel_right htext, rfl⟩
    case h_2 span _ =>
      obtain rfl := List.mem_singleton.mp hs
      exact absurd htext (qualified_ne_tableText hm module span.name)
    case h_3 =>
      obtain ⟨span, -, rfl⟩ := List.mem_map.mp hs
      exact absurd htext (qualified_ne_tableText hm module span.name)
  · refine absurd ?_ hfeed
    rw [← htext, exportSplice]
    split <;> simp

theorem lineSplices_of_findStatement? {l : Text} {span : Span} (h : findStatement? l = some span)
    (module : Text) (names : List Text) :
    lineSplices module names l = [⟨span.start, span.stop, tableText span.name⟩] := by
  simp only [lineSplices, LineKind.of, h]

theorem text_of_resolve {source : Text} {e : Edit} {s : Splice}
    (h : Edit.resolve source e = .ok s) : e.text = s.text := by
  unfold Edit.resolve at h
  split at h
  case h_1 => cases h
  case h_2 =>
    split at h
    case h_1 => cases h
    case h_2 => exact congrArg Splice.text (Except.ok.inj h)

/-- The first statement within a line is replaced by an edit of that line. -/
theorem exists_replaced_of_line {source l : Text} {pre post : List Text}
    (hl : Text.lines source = pre ++ l :: post) {span : Span} (hs : findStatement? l = some span) :
    ∃ m ∈ findAll source, Replaced source m ∧ m.name = span.name ∧
      m.start = (Text.lead pre).length + span.start ∧
      ∀ text, Replaces source (Splice.onLine pre.length ⟨span.start, span.stop, text⟩) m text := by
  obtain ⟨a, r, rest, rfl, hstart, hread, hstop, -⟩ := findStatement?_eq_some hs
  obtain ⟨w, hw, rfl⟩ := read?_eq_some_iff_append.mp hread
  obtain ⟨z, hz⟩ := Text.exists_eq_lead_append hl
  have hsource : source = (Text.lead pre ++ a) ++ (w ++ ';' :: (rest ++ z)) := by
    rw [hz]
    simp
  let m : Match := ⟨(Text.lead pre ++ a).length, (Text.lead pre ++ a).length + w.length, span.name, true⟩
  have hmem : m ∈ findAll source := mem_findAll.mpr ⟨_, w, _, hsource, hw, rfl, rfl, rfl⟩
  have hat : m.start = (Text.lead pre).length + span.start := by
    rw [hstart, ← List.length_append]
  have hreplaced : Replaced source m := by
    refine (mem_replacedFrom_iff_replaced hmem).mp (mem_replacedFrom.mpr ?_)
    exact ⟨pre, _, post, span, hl, hs, by omega⟩
  refine ⟨m, hmem, hreplaced, rfl, hat, fun text => ⟨rfl, ?_⟩⟩
  have hbounds := findStatement?_bounds hs
  have hfrom := Edit.offset_of_lines hl (hbounds.1.le.trans hbounds.2.1)
  have hto := Edit.offset_of_lines hl hbounds.2.1
  have hend : (Text.lead pre).length + span.stop = m.stop + 1 := by
    simp only [List.length_append, List.length_cons] at hstop
    simp only [m, List.length_append]
    omega
  rw [← hat] at hfrom
  rw [hend] at hto
  simp only [Edit.resolve, Splice.onLine, Range.onLine, hfrom, hto, Int.natCast_add]
  rfl

/-- A text with a statement gets edits that define the table of the module they return exactly if a
statement that declares this module is the first one that lies within its line. -/
theorem definesTable_iff_replaced (source : Text) :
    match moduleName? source with
    | none => edits source = .ok []
    | some module =>
      ∃ es, edits source = .ok es ∧ es ≠ [] ∧
        (DefinesTable source es module ↔
          ∃ m ∈ findAll source, Replaced source m ∧ m.name = module) := by
  cases hm : moduleName? source with
  | none => simp [edits, hm]
  | some module =>
    obtain ⟨ls, last, hl⟩ := Text.exists_lines_eq_concat source
    refine ⟨_, edits_eq_documentEdits hm hl, documentEdits_ne_nil _ _ _ _ _, ?_⟩
    constructor
    · rintro ⟨e, he, _, -, -, hres⟩
      obtain ⟨pre, l, post, s, hsplit, rfl, hs⟩ := mem_documentEdits.mp he
      obtain ⟨span, hspan, hname, -⟩ :=
        findStatement?_of_tableText (isName_of_moduleName? hm) (hs.imp id And.right)
          (text_of_resolve hres)
      obtain ⟨m, hmem, hreplaced, hm', -⟩ := exists_replaced_of_line (hl.trans hsplit) hspan
      exact ⟨m, hmem, hreplaced, hm'.trans hname⟩
    · rintro ⟨m, hmem, hreplaced, rfl⟩
      obtain ⟨pre, l, post, span, hsplit, hspan, hstart⟩ :=
        mem_replacedFrom.mp ((mem_replacedFrom_iff_replaced hmem).mpr hreplaced)
      obtain ⟨m', hmem', -, hname, hstart', hres⟩ := exists_replaced_of_line hsplit hspan
      obtain rfl : m = m' := eq_of_start_eq hmem hmem' (by omega)
      refine ⟨Splice.onLine pre.length ⟨span.start, span.stop, tableText m.name⟩, ?_, m, hmem,
        hres _⟩
      refine mem_documentEdits.mpr ⟨pre, l, post, _, hl.symm.trans hsplit, by rw [Nat.zero_add], ?_⟩
      rw [lineSplices_of_findStatement? hspan, hname]
      exact Or.inl (List.mem_singleton_self _)

/-- A statement over two lines. -/
def twoLineStatement : Text :=
  "module('A',\npackage.seeall);".toList

/-- Its table is returned and never defined. -/
theorem table_returned_undefined :
    moduleName? twoLineStatement = some "A".toList ∧
      edits twoLineStatement = .ok [⟨.onLine 1 16 16, "\n\nreturn A;\n".toList⟩] ∧
      ¬ DefinesTable twoLineStatement [⟨.onLine 1 16 16, "\n\nreturn A;\n".toList⟩]
        "A".toList := by
  refine ⟨by decide +kernel, by decide +kernel, ?_⟩
  rintro ⟨e, he, m, -, -, hres⟩
  obtain rfl := List.mem_singleton.mp he
  have htext : "\n\nreturn A;\n".toList = tableText "A".toList := text_of_resolve hres
  revert htext
  decide

end LuaIndex.Conversion
