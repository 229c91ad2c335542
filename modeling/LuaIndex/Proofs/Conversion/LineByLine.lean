import LuaIndex.Proofs.Conversion.Document

namespace LuaIndex.Conversion

/-- A line after the conversion: its first module statement is a table now, or else its definition a
field, or else each of its bare calls a call of a field. Calls are replaced from the right, so that the
columns of those to their left stay. -/
def convertLine (module : Text) (names : List Text) (line : Text) : Text :=
  match Declaration.findStatement? line with
  | some span => Text.splice line span.start span.stop (tableText span.name)
  | none =>
    match Definition.findTopLevel? line with
    | some span => Text.splice line span.start span.stop (qualified module span.name)
    | none =>
      (CallSite.find names line).foldr
        (fun span l => Text.splice l span.start span.stop (qualified module span.name)) line

/-- The last line with the statement that returns the table, in front of white space and else after
the line. -/
def withReturn (module last : Text) : Text :=
  if last.all Text.isBlank then "\nreturn ".toList ++ module ++ ";\n".toList ++ last
  else last ++ "\n\nreturn ".toList ++ module ++ ";\n".toList

/-- A text after its conversion to a module, line by line. -/
def lineByLine (module source : Text) : Text :=
  let ls := Text.lines source
  let converted := ls.map (convertLine module (topLevelNames ls))
  Text.unlines (converted.dropLast ++ [withReturn module (converted.getLastD [])])

variable {module : Text} {names : List Text}

theorem foldr_put_lineSplices (module : Text) (names : List Text) (l : Text) :
    (lineSplices module names l).foldr Splice.put l = convertLine module names l := by
  unfold lineSplices convertLine LineKind.of
  cases hs : Declaration.findStatement? l with
  | some span => simp [Splice.put]
  | none =>
    cases hd : Definition.findTopLevel? l with
    | some span => simp [Splice.put]
    | none => simp [List.foldr_map, Splice.put]

/-- The converted lines of a text, and what the last one becomes. -/
theorem lineByLine_of_lines (module : Text) {source last : Text} {ls : List Text}
    (hl : Text.lines source = ls ++ [last]) :
    lineByLine module source =
      Text.lead (ls.map (convertLine module (topLevelNames (ls ++ [last])))) ++
        withReturn module (convertLine module (topLevelNames (ls ++ [last])) last) := by
  rw [← Text.unlines_concat]
  simp [lineByLine, hl]

theorem all_isBlank_iff {l : Text} : l.all Text.isBlank = true ↔ Text.strip l = [] := by
  rw [Text.strip_eq_nil_iff, List.all_eq_true]

/-- What is put into a line is never all white space. -/
theorem not_blank_of_mem_lineSplices {l : Text} {s : Splice} (h : s ∈ lineSplices module names l) :
    ∃ c ∈ s.text, Text.isBlank c = false := by
  have hfield : ∀ n : Text, ∃ c ∈ qualified module n, Text.isBlank c = false :=
    fun n => ⟨'.', by simp [qualified], by decide⟩
  have htable : ∀ n : Text, ∃ c ∈ tableText n, Text.isBlank c = false :=
    fun n => ⟨'=', by simp [tableText], by decide⟩
  unfold lineSplices at h
  split at h
  case h_1 span _ =>
    obtain rfl := List.mem_singleton.mp h
    exact htable span.name
  case h_2 span _ =>
    obtain rfl := List.mem_singleton.mp h
    exact hfield span.name
  case h_3 =>
    obtain ⟨span, -, rfl⟩ := List.mem_map.mp h
    exact hfield span.name

/-- White space becomes white space, and nothing else does. -/
theorem strip_convertLine (hn : ∀ n ∈ names, n ≠ []) (l : Text) :
    Text.strip (convertLine module names l) = [] ↔ Text.strip l = [] := by
  constructor
  · intro h
    rw [← foldr_put_lineSplices] at h
    cases hs : lineSplices module names l with
    | nil => simpa [hs] using h
    | cons s ss =>
      obtain ⟨c, hc, hblank⟩ := not_blank_of_mem_lineSplices (by rw [hs]; exact List.mem_cons_self)
      rw [hs, Text.strip_eq_nil_iff] at h
      have hput := h c (by simp [Splice.put, Text.splice, hc])
      rw [hblank] at hput
      cases hput
  · intro h
    rw [← foldr_put_lineSplices, lineSplices_of_blank hn h]
    exact h

/-- The last line gets its own changes and the statement that returns the table. -/
theorem foldr_put_lastSplices (hn : ∀ n ∈ names, n ≠ []) (last : Text) :
    (lastSplices module names last).foldr Splice.put last =
      withReturn module (convertLine module names last) := by
  by_cases hblank : Text.strip last = []
  · have hall := all_isBlank_iff.mpr hblank
    rw [lastSplices, lineSplices_of_blank hn hblank, ← foldr_put_lineSplices,
      lineSplices_of_blank hn hblank]
    simp [exportSplice, hblank, withReturn, hall, Splice.put, Text.splice]
  · have hall : ¬ (convertLine module names last).all Text.isBlank = true := by
      rw [all_isBlank_iff, strip_convertLine hn]
      exact hblank
    have hempty : ¬ (Text.strip last).isEmpty = true := by simpa using hblank
    have hput : Splice.put (exportSplice module last) last =
        last ++ ("\n\nreturn ".toList ++ module ++ ";\n".toList) := by
      simp [exportSplice, hempty, Splice.put, Text.splice]
    have hlast := Splice.foldr_put_shift (lineSplices_follow module hn last).1 (Int.le_refl 0) []
      ("\n\nreturn ".toList ++ module ++ ";\n".toList)
    rw [List.length_nil, Splice.shift_zero, List.map_id, List.nil_append, List.nil_append,
      foldr_put_lineSplices] at hlast
    rw [lastSplices, List.foldr_append, List.foldr_cons, List.foldr_nil, hput, hlast]
    simp [withReturn, hall]

/-- The edits of a text with a module statement are applied without failure. -/
theorem exists_applyAll_edits {source module : Text} (hm : moduleName? source = some module) :
    ∃ es, edits source = .ok es ∧ Edit.applyAll source es = .ok (lineByLine module source) := by
  obtain ⟨ls, last, hl⟩ := Text.exists_lines_eq_concat source
  have hn : ∀ n ∈ topLevelNames (ls ++ [last]), n ≠ [] :=
    fun n h => (ne_nil_of_mem_topLevelNames h).1
  have hsource : Text.unlines (ls ++ [last]) = source := by
    rw [← hl]
    exact Text.unlines_lines source
  have hres := resolveAll_documentEdits module hn [] ls (by simpa using hl)
  have hfollow := documentSplices_follow module hn 0 ls last
  have hput := foldr_put_documentSplices module hn [] ls last
  rw [hsource] at hfollow hput
  refine ⟨_, edits_eq_documentEdits hm hl, ?_⟩
  change Edit.resolveAll source (documentEdits module _ 0 ls last) =
    .ok (documentSplices module _ 0 ls last) at hres
  rw [Edit.applyAll_of_follow hres (by simpa using hfollow)]
  refine congrArg Except.ok (hput.trans ?_)
  simp only [lineByLine, hl, foldr_put_lineSplices, foldr_put_lastSplices hn]
  simp

/-- Every text with a module statement is converted without failure, and becomes what converting its
lines one by one gives. A text without one gets no edits. -/
theorem applyAll_edits_eq_lineByLine (source : Text) :
    match moduleName? source with
    | none => edits source = .ok []
    | some module =>
      ∃ es, edits source = .ok es ∧ Edit.applyAll source es = .ok (lineByLine module source) := by
  cases hm : moduleName? source with
  | none => simp [edits, hm]
  | some module => exact exists_applyAll_edits hm

end LuaIndex.Conversion
