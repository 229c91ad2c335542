import LuaIndex.Module.Scan
import LuaIndex.Proofs.Conversion.Document
import LuaIndex.Proofs.Source.Declarations
import LuaIndex.Proofs.Text.LineBreaks

namespace LuaIndex

namespace Declaration

theorem read?_crlf (t : Text) :
    read? (Text.crlf t) = (read? t).map fun d => ⟨d.name, Text.crlf d.rest⟩ := by
  have hopening := Text.after_crlf (w := opening) (by decide) (by decide) t
  have hword := Text.dropWhile_crlf (p := Text.isWord) (by decide)
  have hname := Text.takeWhile_crlf (p := Text.isWord) (by decide) (by decide)
  have hfiller := Text.dropWhile_crlf (p := isFiller) (by decide)
  have hquote : isQuote '\r' = false ∧ isQuote '\n' = false := by decide
  unfold read?
  rw [hopening]
  cases Text.after opening t with
  | none => rfl
  | some body =>
    -- a line feed stands neither for a quote nor for the parenthesis
    rcases Text.starts_cases body with rfl | ⟨body, rfl⟩ | ⟨q, body, hq, rfl⟩
    · rfl
    · simp [hquote]
    simp only [Option.map_some, Text.crlf_cons hq, hword, hname]
    split
    case isFalse => rfl
    rcases Text.starts_cases (body.dropWhile Text.isWord) with
      hb | ⟨tail, hb⟩ | ⟨q', tail, hq', hb⟩ <;> rw [hb]
    · rfl
    · simp [hquote]
    simp only [Text.crlf_cons hq', hfiller]
    split
    case isFalse => rfl
    rcases Text.starts_cases (tail.dropWhile isFiller) with
      hf | ⟨rest, hf⟩ | ⟨c, rest, hc, hf⟩ <;> rw [hf]
    · rfl
    · simp
    by_cases hclose : c = ')'
    · simp [hclose, Text.crlf_cons]
    · simp [Text.crlf_cons hc, hclose]

theorem read?_feed (t : Text) : read? ('\n' :: t) = none := by
  unfold read?
  rw [opening_eq, Text.after, if_neg (by decide)]

theorem findName?_crlf (t : Text) : findName? (Text.crlf t) = findName? t := by
  refine Text.map_search_crlf (g := Declaration.name) (fun u => ?_) read?_feed 0 0 t
  rw [read?_crlf, Option.map_map]
  rfl

theorem readStatement?_crlf (t : Text) :
    (readStatement? (Text.crlf t)).map Span.name = (readStatement? t).map Span.name := by
  unfold readStatement?
  rw [read?_crlf]
  cases read? t with
  | none => rfl
  | some d =>
    obtain ⟨name, rest⟩ := d
    rcases Text.starts_cases rest with rfl | ⟨rest, rfl⟩ | ⟨c, rest, hc, rfl⟩
    · rfl
    · simp
    by_cases hsemi : c = ';'
    · simp [hsemi, Text.crlf_cons]
    · simp [Text.crlf_cons hc, hsemi]

theorem readStatement?_feed (t : Text) : readStatement? ('\n' :: t) = none := by
  rw [readStatement?, read?_feed]

theorem moduleName?_crlf (t : Text) :
    Conversion.moduleName? (Text.crlf t) = Conversion.moduleName? t := by
  have hsearch := Text.map_search_crlf readStatement?_crlf readStatement?_feed 0 0 t
  simpa [Conversion.moduleName?, findStatement?, Function.comp_def, Span.shift] using hsearch

/-- A carriage return at the end neither makes nor ends a declaration. -/
theorem stops_return (t : Text) : Stops t ['\r'] :=
  ⟨by decide, Or.inl (by decide)⟩

theorem readStatement?_append_return (t : Text) : readStatement? (t ++ ['\r']) = readStatement? t := by
  by_cases ht : t = []
  · rw [ht]
    decide
  · unfold readStatement?
    rw [(stops_return t).read? ht]
    cases hr : read? t with
    | none => rfl
    | some d =>
      obtain ⟨name, rest⟩ := d
      cases rest with
      | nil => simp
      | cons c rest =>
        by_cases hc : c = ';'
        · subst hc
          simp
        · simp [hc]

theorem findStatement?_append_return (t : Text) :
    findStatement? (t ++ ['\r']) = findStatement? t := by
  rw [findStatement?, Text.search_append readStatement?_append_return, findStatement?]

end Declaration

namespace Definition

theorem read?_append_return (t : Text) : read? (t ++ ['\r']) = read? t := by
  apply Option.ext
  intro span
  rw [read?_eq_some_iff, read?_eq_some_iff]
  constructor
  · rintro ⟨gap, gap', rest, hgap, hne, hword, hname, hgap', ht, hstart, hstop⟩
    -- the text ends with the carriage return and not with the parenthesis
    rcases List.eq_nil_or_concat rest with rfl | ⟨rest, x, rfl⟩
    · have hlast := congrArg List.getLast? ht
      simp [← List.append_assoc] at hlast
    · have hend : t ++ ['\r'] =
          keyword ++ gap ++ (span.name ++ (gap' ++ '(' :: rest)) ++ [x] := by simpa using ht
      exact ⟨gap, gap', rest, hgap, hne, hword, hname, hgap', (List.append_inj' hend rfl).1, hstart,
        hstop⟩
  · rintro ⟨gap, gap', rest, hgap, hne, hword, hname, hgap', rfl, hstart, hstop⟩
    exact ⟨gap, gap', rest ++ ['\r'], hgap, hne, hword, hname, hgap', by simp, hstart, hstop⟩

theorem find?_append_return (t : Text) : find? (t ++ ['\r']) = find? t := by
  rw [find?, Text.search_append read?_append_return, find?]

end Definition

namespace CallSite

theorem read?_append_return (names : List Text) (t : Text) :
    read? names (t ++ ['\r']) = read? names t := by
  have hsame : (fun n => Text.startsWith (t ++ ['\r']) (n ++ ['('])) =
      fun n => Text.startsWith t (n ++ ['(']) := by
    funext n
    exact Text.startsWith_append (by decide) t n
  rw [read?, hsame, read?]

theorem read?_nil (names : List Text) : read? names [] = none := by
  rw [read?, List.find?_eq_none]
  intro n _
  cases n <;> simp [Text.startsWith, Text.after]

theorem findFrom_append_return (names : List Text) (skip : Nat) (before : Option Char)
    (column : Nat) (t : Text) :
    findFrom names skip before column (t ++ ['\r']) = findFrom names skip before column t := by
  induction t generalizing skip before column with
  | nil =>
    have hread : read? names ['\r'] = none := (read?_append_return names []).trans (read?_nil names)
    cases skip with
    | zero => simp [findFrom, hread]
    | succ n => simp [findFrom]
  | cons c t ih =>
    have hread := read?_append_return names (c :: t)
    rw [List.cons_append] at hread ⊢
    cases skip with
    | zero => simp only [findFrom, hread, ih]
    | succ n => simp only [findFrom, ih]

end CallSite

namespace DocComment

/-- A carriage return at the end of a comment line belongs to the white space around the comment. -/
theorem walkUp_map_return (d : DocComment) (limit : Nat) (above : List Text) :
    d.walkUp limit (above.map (· ++ ['\r'])) = d.walkUp limit above := by
  induction limit generalizing d above with
  | zero => rfl
  | succ limit ih =>
    cases above with
    | nil => rfl
    | cons line above =>
      have hstrip := Text.strip_append_blank (x := '\r') (by decide) line
      have hcomment : DocTag.isComment (line ++ ['\r']) = DocTag.isComment line := by
        rw [DocTag.isComment, hstrip, DocTag.isComment]
      have hbody : DocTag.body (line ++ ['\r']) = DocTag.body line := by
        rw [DocTag.body, hstrip, DocTag.body]
      have htag : DocTag.classify? (line ++ ['\r']) = DocTag.classify? line := by
        rw [DocTag.classify?, hbody, DocTag.classify?]
      rw [List.map_cons, walkUp, walkUp, hcomment, htag, ih]

end DocComment

namespace ModuleInfo

theorem functionsFrom_map_return (limit : Nat) (path : Text) (k : Nat) (above ls : List Text)
    (last : Text) :
    functionsFrom limit path k (above.map (· ++ ['\r'])) (ls.map (· ++ ['\r']) ++ [last]) =
      functionsFrom limit path k above (ls ++ [last]) := by
  have hfunction : ∀ (k : Nat) (above : List Text), function limit path k (above.map (· ++ ['\r'])) =
      function limit path k above := by
    intro k above
    funext span
    simp only [function, DocComment.collect, DocComment.walkUp_map_return]
  induction ls generalizing k above with
  | nil => simp [functionsFrom, hfunction]
  | cons l ls ih =>
    have hrest := ih (k + 1) (l :: above)
    rw [List.map_cons] at hrest
    simp only [List.map_cons, List.cons_append, functionsFrom, Definition.find?_append_return,
      hfunction, hrest]

theorem scan?_crlf (lookback : Lookback) (path source : Text) :
    scan? lookback path (Text.crlf source) = scan? lookback path source := by
  obtain ⟨ls, last, hl⟩ := Text.exists_lines_eq_concat source
  have hfunctions := functionsFrom_map_return lookback.limit path 0 [] ls last
  rw [List.map_nil] at hfunctions
  rw [scan?, scan?, Declaration.findName?_crlf, functionTable, functionTable, Text.lines_crlf hl, hl,
    hfunctions]

end ModuleInfo

namespace Conversion

theorem lineKind_append_return (l : Text) : LineKind.of (l ++ ['\r']) = LineKind.of l := by
  rw [LineKind.of, LineKind.of, Declaration.findStatement?_append_return, Definition.findTopLevel?,
    Definition.findTopLevel?, Definition.read?_append_return]

theorem lineSplices_append_return (module : Text) (names : List Text) (l : Text) :
    lineSplices module names (l ++ ['\r']) = lineSplices module names l := by
  rw [lineSplices, lineSplices, lineKind_append_return, CallSite.find, CallSite.find,
    CallSite.findFrom_append_return]

theorem documentEdits_map_return (module : Text) (names : List Text) (k : Nat) (ls : List Text)
    (last : Text) :
    documentEdits module names k (ls.map (· ++ ['\r'])) last =
      documentEdits module names k ls last := by
  induction ls generalizing k with
  | nil => rfl
  | cons l ls ih => rw [List.map_cons, documentEdits, documentEdits, lineSplices_append_return, ih]

theorem topLevelNames_map_return (ls : List Text) (last : Text) :
    topLevelNames (ls.map (· ++ ['\r']) ++ [last]) = topLevelNames (ls ++ [last]) := by
  simp only [topLevelNames, List.filterMap_append, List.filterMap_map, Function.comp_def,
    lineKind_append_return]

theorem exists_edits_crlf (source : Text) :
    ∃ es, edits source = .ok es ∧ edits (Text.crlf source) = .ok es := by
  have hname := Declaration.moduleName?_crlf source
  cases hm : moduleName? source with
  | none =>
    rw [hm] at hname
    exact ⟨[], by rw [edits, hm], by rw [edits, hname]⟩
  | some module =>
    obtain ⟨ls, last, hl⟩ := Text.exists_lines_eq_concat source
    have hcrlf := edits_eq_documentEdits (hname.trans hm) (Text.lines_crlf hl)
    rw [topLevelNames_map_return, documentEdits_map_return] at hcrlf
    exact ⟨_, edits_eq_documentEdits hm hl, hcrlf⟩

end Conversion

/-- A carriage return before every line feed changes neither what a scan finds, with all its
documentation and places, nor the edits of a conversion. -/
theorem scan?_edits_crlf (source : Text) :
    (∀ lookback path, ModuleInfo.scan? lookback path (Text.crlf source) =
        ModuleInfo.scan? lookback path source) ∧
      ∃ es, Conversion.edits source = .ok es ∧ Conversion.edits (Text.crlf source) = .ok es :=
  ⟨fun lookback path => ModuleInfo.scan?_crlf lookback path source,
    Conversion.exists_edits_crlf source⟩

end LuaIndex
