import LuaIndex.Module.Scan
import LuaIndex.Proofs.Source.Patterns
import LuaIndex.Proofs.Table.Filled

namespace LuaIndex

/-- The range lies on one line of the text, and what it covers there is `w`. -/
def Range.Covers (r : Range) (source w : Text) : Prop :=
  ∃ (line : Nat) (before after : Text),
    (Text.lines source)[line]? = some (before ++ (w ++ after)) ∧
      r = .onLine line before.length (before.length + w.length)

/-- A definition found on a line: the keyword, white space, the name at its span, and a parenthesis after
possible white space. -/
theorem Definition.find?_parts {l : Text} {span : Span} (h : find? l = some span) :
    ∃ before gap gap' rest, l = before ++ keyword ++ gap ++ (span.name ++ (gap' ++ '(' :: rest)) ∧
      (∀ c ∈ gap, Text.isBlank c = true) ∧ gap ≠ [] ∧ (∀ c ∈ gap', Text.isBlank c = true) ∧
      span.start = (before ++ keyword ++ gap).length ∧ span.stop = span.start + span.name.length := by
  obtain ⟨⟨i, found⟩, hs, rfl⟩ := Option.map_eq_some_iff.mp h
  obtain ⟨before, r, rfl, rfl, hr, -⟩ := Text.search_eq_some_iff.mp hs
  obtain ⟨gap, gap', rest, hgap, hne, -, -, hgap', rfl, hstart, hstop⟩ := read?_eq_some hr
  refine ⟨before, gap, gap', rest, by simp [Span.shift], hgap, hne, hgap', ?_, ?_⟩
  · simp only [Span.shift, hstart, List.length_append]
    omega
  · simp only [Span.shift, hstop]
    omega

/-- What is found on a line of a text covers its name there. -/
theorem Definition.covers_of_find? {source l : Text} {line : Nat} {span : Span}
    (hl : (Text.lines source)[line]? = some l) (h : find? l = some span) :
    (span.range line).Covers source span.name := by
  obtain ⟨before, gap, gap', rest, rfl, -, -, -, hstart, hstop⟩ := find?_parts h
  refine ⟨line, before ++ keyword ++ gap, gap' ++ '(' :: rest, hl, ?_⟩
  rw [Span.range, hstop, hstart]
  rfl

namespace ModuleInfo

/-- The line with this number defines the name at a span, and no line below it defines the name. -/
structure LastDefined (ls : List Text) (name : Text) (index : Nat) (span : Span) : Prop where
  defined : ∃ l, ls[index]? = some l ∧ Definition.find? l = some span
  named : span.name = name
  last : ∀ j l s, index < j → ls[j]? = some l → Definition.find? l = some s → s.name ≠ name

variable {limit k : Nat} {path : Text} {above ls : List Text}

theorem map_name_functionsFrom :
    (functionsFrom limit path k above ls).map FunctionInfo.name =
      ls.filterMap fun l => (Definition.find? l).map Span.name := by
  induction ls generalizing k above with
  | nil => rfl
  | cons l ls ih =>
    cases hd : Definition.find? l with
    | none => simp [functionsFrom, hd, ih]
    | some span => simp [functionsFrom, hd, ih, function]

/-- Each function among those found comes from a line, those after it from the lines below. -/
theorem exists_line_of_functionsFrom_eq {earlier later : List FunctionInfo} {f : FunctionInfo}
    (h : functionsFrom limit path k above ls = earlier ++ f :: later) :
    ∃ before l after span, ls = before ++ l :: after ∧ Definition.find? l = some span ∧
      f = function limit path (k + before.length) (before.reverse ++ above) span ∧
      later = functionsFrom limit path (k + before.length + 1) (l :: (before.reverse ++ above)) after := by
  induction ls generalizing k above earlier with
  | nil => simp [functionsFrom] at h
  | cons l ls ih =>
    -- what is found below the first line, there with one line more above it
    have hbelow : ∀ {earlier : List FunctionInfo},
        functionsFrom limit path (k + 1) (l :: above) ls = earlier ++ f :: later →
        ∃ before l' after span, l :: ls = before ++ l' :: after ∧ Definition.find? l' = some span ∧
          f = function limit path (k + before.length) (before.reverse ++ above) span ∧
          later = functionsFrom limit path (k + before.length + 1) (l' :: (before.reverse ++ above))
            after := by
      intro earlier hrest
      obtain ⟨before, l', after, span, rfl, hd, hf, hlater⟩ := ih hrest
      have hcount : k + (l :: before).length = k + 1 + before.length := by
        rw [List.length_cons]
        omega
      refine ⟨l :: before, l', after, span, rfl, hd, ?_, ?_⟩
      · rw [hcount, hf, List.reverse_cons, List.append_assoc, List.singleton_append]
      · rw [hcount, hlater, List.reverse_cons, List.append_assoc, List.singleton_append]
    cases hd : Definition.find? l with
    | none =>
      simp only [functionsFrom, hd] at h
      exact hbelow h
    | some span =>
      simp only [functionsFrom, hd] at h
      cases earlier with
      | nil =>
        obtain ⟨rfl, rfl⟩ := List.cons.inj h
        exact ⟨[], l, ls, span, rfl, hd, rfl, rfl⟩
      | cons g earlier => exact hbelow (List.cons.inj h).2

/-- Of the functions found under a name the last comes from the last line that defines it. -/
theorem exists_lastDefined {earlier later : List FunctionInfo} {f : FunctionInfo}
    (h : functionsFrom limit path 0 [] ls = earlier ++ f :: later) (hlast : ∀ g ∈ later, g.name ≠ f.name) :
    ∃ index span, LastDefined ls f.name index span ∧
      f = function limit path index (ls.take index).reverse span := by
  obtain ⟨before, l, after, span, rfl, hd, hf, hlater⟩ := exists_line_of_functionsFrom_eq h
  rw [Nat.zero_add, List.append_nil] at hf
  refine ⟨before.length, span, ⟨⟨l, by simp, hd⟩, by rw [hf]; rfl, ?_⟩, by rw [List.take_left, hf]⟩
  intro j l' s hj hl' hs hname
  have hmem : l' ∈ after := by
    obtain ⟨d, rfl⟩ := Nat.exists_eq_add_of_lt hj
    rw [List.getElem?_append_right (by omega)] at hl'
    rw [show before.length + d + 1 - before.length = d + 1 by omega, List.getElem?_cons_succ] at hl'
    exact List.mem_of_getElem? hl'
  have hnames : s.name ∈ later.map FunctionInfo.name := by
    rw [hlater, map_name_functionsFrom]
    exact List.mem_filterMap.mpr ⟨l', hmem, by rw [hs]; rfl⟩
  obtain ⟨g, hg, hgname⟩ := List.mem_map.mp hnames
  exact hlast g hg (hgname.trans hname)

/-- Each function of a scanned module comes from the last line that defines its name. -/
theorem exists_function_of_scan? {lookback : Lookback} {path source name : Text} {m : ModuleInfo}
    {f : FunctionInfo} (hm : scan? lookback path source = some m) (hf : (name, f) ∈ m.functions) :
    ∃ index span, LastDefined (Text.lines source) name index span ∧
      f = function lookback.limit path index ((Text.lines source).take index).reverse span := by
  obtain ⟨declared, -, rfl⟩ := Option.map_eq_some_iff.mp hm
  have hget := (Table.get?_eq_some_iff_mem (Table.nodup_keys_ofList _)).mpr hf
  obtain ⟨earlier, later, hsplit, hlater⟩ := Table.get?_ofList_eq_some_iff.mp hget
  obtain ⟨gs, hs, hfs, -, htail⟩ := List.map_eq_append_iff.mp hsplit
  obtain ⟨g, hs, rfl, hg, rfl⟩ := List.map_eq_cons_iff.mp htail
  obtain ⟨rfl, rfl⟩ := Prod.mk.inj hg
  exact exists_lastDefined hfs fun x hx => hlater (x.name, x) (List.mem_map_of_mem hx)

/-- What a scan finds as a function is where the function says it is. -/
theorem function_of_scan? {lookback : Lookback} {path source name : Text} {m : ModuleInfo}
    {f : FunctionInfo} (hm : scan? lookback path source = some m) (hf : (name, f) ∈ m.functions) :
    f.name = name ∧ f.location.path = path ∧ f.location.range.Covers source name := by
  obtain ⟨index, span, ⟨⟨l, hl, hd⟩, rfl, -⟩, rfl⟩ := exists_function_of_scan? hm hf
  exact ⟨rfl, rfl, Definition.covers_of_find? hl hd⟩

/-- The table of a scanned module has the names that its lines define. -/
theorem mem_keys_of_scan? {lookback : Lookback} {path source name : Text} {m : ModuleInfo}
    (hm : scan? lookback path source = some m) :
    name ∈ m.functions.keys ↔
      ∃ l ∈ Text.lines source, ∃ span, Definition.find? l = some span ∧ span.name = name := by
  obtain ⟨declared, -, rfl⟩ := Option.map_eq_some_iff.mp hm
  simp only [functionTable, Table.keys_ofList, List.mem_eraseDups, List.map_map]
  change name ∈ (functionsFrom lookback.limit path 0 [] (Text.lines source)).map FunctionInfo.name ↔ _
  rw [map_name_functionsFrom, List.mem_filterMap]
  simp only [Option.map_eq_some_iff]

/-- A text with a declaration is scanned to a module whose table lists each name that its lines define, in
the order in which they first do. The function under a name is that of the last line that defines it and
bears its name, and its location covers on that line exactly the name, after the keyword and white space and
before a parenthesis. -/
theorem functions_of_declared (lookback : Lookback) (path source : Text) :
    match Declaration.findName? source with
    | none => scan? lookback path source = none
    | some declared =>
      ∃ m, scan? lookback path source = some m ∧ m.name = declared ∧ m.path = path ∧
        m.functions.keys =
          ((Text.lines source).filterMap fun l => (Definition.find? l).map Span.name).eraseDups ∧
        m.functions.keys.Nodup ∧
        ∀ name f, (name, f) ∈ m.functions →
          ∃ index span, LastDefined (Text.lines source) name index span ∧
            f = function lookback.limit path index ((Text.lines source).take index).reverse span ∧
            f.name = name ∧
            ∃ before gap gap' rest,
              (Text.lines source)[index]? =
                some (before ++ Definition.keyword ++ gap ++ (name ++ (gap' ++ '(' :: rest))) ∧
              (∀ c ∈ gap, Text.isBlank c = true) ∧ gap ≠ [] ∧ (∀ c ∈ gap', Text.isBlank c = true) ∧
              f.location = ⟨path, .onLine index (before ++ Definition.keyword ++ gap).length
                ((before ++ Definition.keyword ++ gap).length + name.length)⟩ := by
  cases hm : Declaration.findName? source with
  | none => simp [scan?, hm]
  | some declared =>
    let fs := functionsFrom lookback.limit path 0 [] (Text.lines source)
    have hnodup := Table.nodup_keys_ofList (fs.map fun f => (f.name, f))
    have hscan : scan? lookback path source =
        some ⟨declared, path, functionTable lookback.limit path source⟩ := by
      rw [scan?, hm]
      rfl
    refine ⟨_, hscan, rfl, rfl, ?_, hnodup, ?_⟩
    · have hkeys := Table.keys_ofList (fs.map fun f => (f.name, f))
      have hnames : (fs.map fun f => (f.name, f)).map Prod.fst = fs.map FunctionInfo.name := by simp
      rw [hnames, map_name_functionsFrom] at hkeys
      exact hkeys
    · intro name f hf
      obtain ⟨index, span, hlast, hfunction⟩ := exists_function_of_scan? hscan hf
      obtain ⟨l, hl, hd⟩ := hlast.defined
      obtain ⟨before, gap, gap', rest, rfl, hgap, hne, hgap', hstart, hstop⟩ := Definition.find?_parts hd
      have hnamed : f.name = name := by
        rw [hfunction]
        exact hlast.named
      refine ⟨index, span, hlast, hfunction, hnamed, before, gap, gap', rest, ?_, hgap, hne, hgap', ?_⟩
      · rw [← hlast.named, hl]
      · have hend : (span.start : Int) + span.name.length = span.stop := by omega
        rw [← hlast.named, ← hstart, hend, hfunction]
        rfl

end ModuleInfo

end LuaIndex
