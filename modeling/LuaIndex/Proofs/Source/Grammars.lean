import LuaIndex.Proofs.Source.Statements

namespace LuaIndex

namespace Text

variable {α β : Type}

/-- In the text, between `p` and `r`, the part `w` is written for `a`. -/
structure Stands (G : α → Text → Prop) (t p w r : Text) (a : α) : Prop where
  split : t = p ++ (w ++ r)
  written : G a w

/-- Nothing of the kind starts further to the left. -/
structure StandsFirst (G : α → Text → Prop) (t p w r : Text) (a : α) : Prop extends Stands G t p w r a where
  leftmost : ∀ p' w' r' a', Stands G t p' w' r' a' → p.length ≤ p'.length

/-- Where something that is written starts also tells what it is and where it ends. -/
def Unambiguous (G : α → Text → Prop) : Prop :=
  ∀ t p w r a p' w' r' a', Stands G t p w r a → Stands G t p' w' r' a' → p.length = p'.length →
    w = w' ∧ a = a'

/-- A reader gives what the text starts with. -/
def Reads (read : Text → Option α) (G : α → Text → Prop) : Prop :=
  ∀ t a, read t = some a ↔ ∃ w r, t = w ++ r ∧ G a w

variable {read : Text → Option α} {G : α → Text → Prop}

theorem Reads.eq_none_iff (h : Reads read G) {t : Text} :
    read t = none ↔ ∀ w r a, t = w ++ r → ¬ G a w := by
  constructor
  · intro hnone w r a ht hw
    have hsome := (h t a).mpr ⟨w, r, ht, hw⟩
    rw [hnone] at hsome
    cases hsome
  · intro hno
    cases hread : read t with
    | none => rfl
    | some a =>
      obtain ⟨w, r, ht, hw⟩ := (h t a).mp hread
      exact absurd hw (hno w r a ht)

/-- A search finds what stands first in the text. -/
theorem Reads.search_eq_some_iff (h : Reads read G) {t : Text} {i : Nat} {a : α} :
    search read 0 t = some (i, a) ↔ ∃ p w r, StandsFirst G t p w r a ∧ i = p.length := by
  rw [Text.search_eq_some_iff]
  constructor
  · rintro ⟨p, u, ht, hi, hread, hfirst⟩
    obtain ⟨w, r, rfl, hw⟩ := (h u a).mp hread
    refine ⟨p, w, r, ⟨⟨ht, hw⟩, ?_⟩, by omega⟩
    intro p' w' r' a' hstands
    by_contra hlt
    have hnone := hfirst p' (w' ++ r') hstands.split (by omega)
    exact h.eq_none_iff.mp hnone w' r' a' rfl hstands.written
  · rintro ⟨p, w, r, hfirst, rfl⟩
    refine ⟨p, w ++ r, hfirst.split, by omega, (h _ a).mpr ⟨w, r, rfl, hfirst.written⟩, ?_⟩
    intro q s hq hlt
    refine h.eq_none_iff.mpr fun w' r' a' hs hw' => ?_
    have hle := hfirst.leftmost q w' r' a' ⟨by rw [hq, hs], hw'⟩
    omega

theorem Reads.search_eq_none_iff (h : Reads read G) {t : Text} :
    search read 0 t = none ↔ ∀ p w r a, ¬ Stands G t p w r a := by
  rw [Text.search_eq_none_iff]
  constructor
  · intro hnone p w r a hstands
    exact h.eq_none_iff.mp (hnone p (w ++ r) hstands.split) w r a rfl hstands.written
  · intro hno p u ht
    refine h.eq_none_iff.mpr fun w r a hu hw => ?_
    exact hno p w r a ⟨by rw [ht, hu], hw⟩

/-- A span found by a search lies where what it is read from stands. -/
theorem Reads.find_eq_some_iff {read : Text → Option Span} {G : Span → Text → Prop} (h : Reads read G)
    {t : Text} {s : Span} :
    (search read 0 t).map (fun m => m.2.shift m.1) = some s ↔
      ∃ p w r s', StandsFirst G t p w r s' ∧ s = s'.shift p.length := by
  rw [Option.map_eq_some_iff]
  constructor
  · rintro ⟨⟨i, s'⟩, hs, rfl⟩
    obtain ⟨p, w, r, hfirst, rfl⟩ := h.search_eq_some_iff.mp hs
    exact ⟨p, w, r, s', hfirst, rfl⟩
  · rintro ⟨p, w, r, s', hfirst, rfl⟩
    exact ⟨(p.length, s'), h.search_eq_some_iff.mpr ⟨p, w, r, hfirst, rfl⟩, rfl⟩

/-- A search gives what its reader gives. -/
theorem search_map (read : Text → Option α) (f : α → β) (k : Nat) (t : Text) :
    search (fun u => (read u).map f) k t = (search read k t).map fun m => (m.1, f m.2) := by
  induction t generalizing k with
  | nil =>
    simp only [search, Option.map_map]
    rfl
  | cons c t ih =>
    cases hread : read (c :: t) with
    | none => simp only [search, hread, Option.map_none, ih]
    | some a => simp only [search, hread, Option.map_some]

/-- What a text starts with is told apart by what is written, if the reader tells how long it is. -/
theorem Reads.unambiguous (h : Reads read G)
    (hlength : ∀ a w w' r r', G a w → G a w' → w ++ r = w' ++ r' → w = w') : Unambiguous G := by
  intro t p w r a p' w' r' a' hs hs' hp
  obtain ⟨rfl, htail⟩ := List.append_inj (hs.split.symm.trans hs'.split) hp
  have hread := (h (w ++ r) a).mpr ⟨w, r, rfl, hs.written⟩
  have hread' := (h (w ++ r) a').mpr ⟨w', r', htail, hs'.written⟩
  obtain rfl : a = a' := Option.some.inj (hread.symm.trans hread')
  exact ⟨hlength a w w' r r' hs.written hs'.written htail, rfl⟩

end Text

namespace Declaration

/-- A declaration of a name: the opening, a quote, the name, which is a run of word characters, a quote, any
filler, and a closing parenthesis. -/
def Written (name w : Text) : Prop :=
  ∃ q q' filler, isQuote q = true ∧ isQuote q' = true ∧ name ≠ [] ∧
    (∀ c ∈ name, Text.isWord c = true) ∧ (∀ c ∈ filler, isFiller c = true) ∧
    w = opening ++ q :: (name ++ q' :: (filler ++ [')']))

/-- A statement is a declaration and a semicolon. Its span is all of it. -/
def WrittenStatement (s : Span) (w : Text) : Prop :=
  (∃ d, Written s.name d ∧ w = d ++ [';']) ∧ s.start = 0 ∧ s.stop = w.length

theorem read?_eq_some_iff_written {t name rest : Text} :
    read? t = some ⟨name, rest⟩ ↔ ∃ w, Written name w ∧ t = w ++ rest := by
  rw [read?_eq_some_iff]
  constructor
  · rintro ⟨q, q', filler, hq, hq', hne, hword, hfiller, ht⟩
    exact ⟨_, ⟨q, q', filler, hq, hq', hne, hword, hfiller, rfl⟩, ht⟩
  · rintro ⟨w, ⟨q, q', filler, hq, hq', hne, hword, hfiller, rfl⟩, ht⟩
    exact ⟨q, q', filler, hq, hq', hne, hword, hfiller, ht⟩

theorem reads_name : Text.Reads (fun t => (read? t).map Declaration.name) Written := by
  intro t name
  rw [Option.map_eq_some_iff]
  constructor
  · rintro ⟨⟨name, rest⟩, hread, rfl⟩
    obtain ⟨w, hw, ht⟩ := read?_eq_some_iff_written.mp hread
    exact ⟨w, rest, ht, hw⟩
  · rintro ⟨w, r, ht, hw⟩
    exact ⟨⟨name, r⟩, read?_eq_some_iff_written.mpr ⟨w, hw, ht⟩, rfl⟩

theorem reads_statement : Text.Reads readStatement? WrittenStatement := by
  intro t s
  rw [readStatement?_eq_some_iff]
  constructor
  · rintro ⟨rest, hread, hstart, hstop⟩
    obtain ⟨d, hd, rfl⟩ := read?_eq_some_iff_written.mp hread
    refine ⟨d ++ [';'], rest, by simp, ⟨d, hd, rfl⟩, hstart, ?_⟩
    simp only [List.length_append, List.length_cons, List.length_nil] at hstop ⊢
    omega
  · rintro ⟨w, r, rfl, ⟨d, hd, rfl⟩, hstart, hstop⟩
    refine ⟨r, read?_eq_some_iff_written.mpr ⟨d, hd, by simp⟩, hstart, ?_⟩
    simp only [List.length_append] at hstop ⊢
    omega

theorem findName?_eq_search (t : Text) :
    findName? t = (Text.search (fun u => (read? u).map Declaration.name) 0 t).map Prod.snd := by
  rw [Text.search_map, Option.map_map]
  rfl

theorem findName?_eq_some_iff {t name : Text} :
    findName? t = some name ↔ ∃ p w r, Text.StandsFirst Written t p w r name := by
  rw [findName?_eq_search, Option.map_eq_some_iff]
  constructor
  · rintro ⟨⟨i, name⟩, hs, rfl⟩
    obtain ⟨p, w, r, hfirst, -⟩ := reads_name.search_eq_some_iff.mp hs
    exact ⟨p, w, r, hfirst⟩
  · rintro ⟨p, w, r, hfirst⟩
    exact ⟨(p.length, name), reads_name.search_eq_some_iff.mpr ⟨p, w, r, hfirst, rfl⟩, rfl⟩

theorem findName?_eq_none_iff_stands {t : Text} :
    findName? t = none ↔ ∀ p w r name, ¬ Text.Stands Written t p w r name := by
  rw [findName?_eq_search, Option.map_eq_none_iff]
  exact reads_name.search_eq_none_iff

/-- A declaration ends where the rest of the text tells it to. -/
theorem Written.eq_of_append_eq {name w w' r r' : Text} (hw : Written name w) (hw' : Written name w')
    (h : w ++ r = w' ++ r') : w = w' := by
  have hread : read? (w ++ r) = some ⟨name, r⟩ := read?_eq_some_iff_written.mpr ⟨w, hw, rfl⟩
  have hread' : read? (w ++ r) = some ⟨name, r'⟩ := read?_eq_some_iff_written.mpr ⟨w', hw', h⟩
  obtain ⟨-, rfl⟩ := Declaration.mk.inj (Option.some.inj (hread.symm.trans hread'))
  exact List.append_cancel_right h

theorem unambiguous : Text.Unambiguous Written :=
  reads_name.unambiguous fun _ _ _ _ _ => Written.eq_of_append_eq

theorem unambiguous_statement : Text.Unambiguous WrittenStatement := by
  refine reads_statement.unambiguous ?_
  rintro s w w' r r' ⟨⟨d, hd, rfl⟩, -⟩ ⟨⟨d', hd', rfl⟩, -⟩ h
  rw [List.append_assoc, List.append_assoc] at h
  rw [hd.eq_of_append_eq hd' h]

theorem mem_findAll_of_stands {t p w r name : Text} (h : Text.Stands Written t p w r name) :
    ⟨p.length, p.length + w.length, name, r.head? == some ';'⟩ ∈ findAll t := by
  have hread : read? w = some ⟨name, []⟩ :=
    read?_eq_some_iff_written.mpr ⟨w, h.written, (List.append_nil w).symm⟩
  exact mem_findAll.mpr ⟨p, w, r, h.split, hread, rfl, rfl, rfl⟩

/-- A declaration that starts further to the right than another one starts after its end. -/
theorem stop_le_start {t p w r name p' w' r' name' : Text} (h : Text.Stands Written t p w r name)
    (h' : Text.Stands Written t p' w' r' name') (hlt : p.length < p'.length) :
    p.length + w.length ≤ p'.length := by
  obtain ⟨a, rfl, htail⟩ : ∃ a, p' = p ++ a ∧ w ++ r = a ++ (w' ++ r') := by
    rcases List.append_eq_append_iff.mp (h.split.symm.trans h'.split) with ⟨a, ha, hr⟩ | ⟨a, ha, -⟩
    · exact ⟨a, ha, hr⟩
    · have hlength := congrArg List.length ha
      rw [List.length_append] at hlength
      omega
  have hmem := mem_findAll_of_stands (⟨htail, h'.written⟩ : Text.Stands Written (w ++ r) a w' r' name')
  obtain ⟨q, q', filler, hq, hq', hne, hword, hfiller, hw⟩ := h.written
  have hspelled : w = spelled q name q' filler := hw
  rw [findAll_eq_startsFrom, hspelled, startsFrom_spelled hq hq' hne hword hfiller, ← hspelled,
    List.mem_cons] at hmem
  rw [List.length_append] at hlt ⊢
  rcases hmem with hsame | hlater
  · have hstart : a.length = 0 := congrArg Match.start hsame
    omega
  · have hstart := (start_of_mem_startsFrom hlater).1
    dsimp only at hstart
    omega

end Declaration

namespace Definition

/-- A definition of a name: the keyword, white space, the name, which is a run of word characters, possibly
white space, and an opening parenthesis. Its span is that of the name. -/
def Written (s : Span) (w : Text) : Prop :=
  ∃ gap gap', (∀ c ∈ gap, Text.isBlank c = true) ∧ gap ≠ [] ∧ (∀ c ∈ s.name, Text.isWord c = true) ∧
    s.name ≠ [] ∧ (∀ c ∈ gap', Text.isBlank c = true) ∧
    w = keyword ++ gap ++ (s.name ++ (gap' ++ ['('])) ∧
    s.start = (keyword ++ gap).length ∧ s.stop = s.start + s.name.length

theorem reads : Text.Reads read? Written := by
  intro t s
  rw [read?_eq_some_iff]
  constructor
  · rintro ⟨gap, gap', rest, hgap, hne, hword, hname, hgap', ht, hstart, hstop⟩
    exact ⟨_, rest, by rw [ht]; simp, gap, gap', hgap, hne, hword, hname, hgap', rfl, hstart, hstop⟩
  · rintro ⟨w, rest, rfl, gap, gap', hgap, hne, hword, hname, hgap', rfl, hstart, hstop⟩
    exact ⟨gap, gap', rest, hgap, hne, hword, hname, hgap', by simp, hstart, hstop⟩

theorem unambiguous : Text.Unambiguous Written := by
  refine reads.unambiguous ?_
  rintro s w w' r r' ⟨gap, gap', -, -, -, -, hgap', rfl, hstart, -⟩
    ⟨gap₁, gap₁', -, -, -, -, hgap₁', rfl, hstart₁, -⟩ h
  have hparen : ∀ (u : Text) (c : Char), ('(' :: u).head? = some c → Text.isBlank c = false := by
    intro u c hc
    obtain rfl : '(' = c := by simpa using hc
    decide
  simp only [List.append_assoc, List.cons_append, List.nil_append] at h
  have hlength : gap.length = gap₁.length := by
    rw [hstart, List.length_append, List.length_append] at hstart₁
    omega
  obtain ⟨rfl, hrest⟩ := List.append_inj (List.append_cancel_left h) hlength
  have htail := List.append_cancel_left hrest
  have hsame : gap' = gap₁' := by
    calc gap' = (gap' ++ '(' :: r).takeWhile Text.isBlank :=
          (Text.takeWhile_append_of_stop hgap' (hparen r)).symm
      _ = (gap₁' ++ '(' :: r').takeWhile Text.isBlank := by rw [htail]
      _ = gap₁' := Text.takeWhile_append_of_stop hgap₁' (hparen r')
  rw [hsame]

end Definition

/-- Each search finds what its grammar has first in the text, and nothing exactly if the grammar has nothing
there: a declaration its name, a statement all of it, a definition its name, and a top-level definition only at
the very start. Where a declaration, a statement or a definition starts tells where it ends, and of two
declarations at different places one ends before the other starts. -/
theorem searches_accept_grammars (t : Text) :
    ((∀ name, Declaration.findName? t = some name ↔
        ∃ p w r, Text.StandsFirst Declaration.Written t p w r name) ∧
      (Declaration.findName? t = none ↔ ∀ p w r name, ¬ Text.Stands Declaration.Written t p w r name)) ∧
    ((∀ s, Declaration.findStatement? t = some s ↔
        ∃ p w r s', Text.StandsFirst Declaration.WrittenStatement t p w r s' ∧ s = s'.shift p.length) ∧
      (Declaration.findStatement? t = none ↔
        ∀ p w r s, ¬ Text.Stands Declaration.WrittenStatement t p w r s)) ∧
    ((∀ s, Definition.find? t = some s ↔
        ∃ p w r s', Text.StandsFirst Definition.Written t p w r s' ∧ s = s'.shift p.length) ∧
      (Definition.find? t = none ↔ ∀ p w r s, ¬ Text.Stands Definition.Written t p w r s)) ∧
    (∀ s, Definition.findTopLevel? t = some s ↔ ∃ w r, Text.Stands Definition.Written t [] w r s) ∧
    (Text.Unambiguous Declaration.Written ∧ Text.Unambiguous Declaration.WrittenStatement ∧
      Text.Unambiguous Definition.Written) ∧
    ∀ p w r name p' w' r' name', Text.Stands Declaration.Written t p w r name →
      Text.Stands Declaration.Written t p' w' r' name' → p.length < p'.length →
      p.length + w.length ≤ p'.length := by
  refine ⟨⟨?_, Declaration.findName?_eq_none_iff_stands⟩, ⟨?_, ?_⟩, ⟨?_, ?_⟩, ?_,
    ⟨Declaration.unambiguous, Declaration.unambiguous_statement, Definition.unambiguous⟩, ?_⟩
  · intro name
    exact Declaration.findName?_eq_some_iff
  · intro s
    exact Declaration.reads_statement.find_eq_some_iff
  · rw [Declaration.findStatement?, Option.map_eq_none_iff]
    exact Declaration.reads_statement.search_eq_none_iff
  · intro s
    exact Definition.reads.find_eq_some_iff
  · rw [Definition.find?, Option.map_eq_none_iff]
    exact Definition.reads.search_eq_none_iff
  · intro s
    have hread := Definition.reads t s
    rw [Definition.findTopLevel?, hread]
    constructor
    · rintro ⟨w, r, ht, hw⟩
      exact ⟨w, r, ht, hw⟩
    · rintro ⟨w, r, ht, hw⟩
      exact ⟨w, r, ht, hw⟩
  · intro p w r name p' w' r' name' h h' hlt
    exact Declaration.stop_le_start h h' hlt

example : Declaration.findName? "module(\"module(\"A\")".toList = some ['A'] := by
  decide +kernel

example : Definition.find? "function function f(".toList = some ⟨['f'], 18, 19⟩ := by
  decide +kernel

end LuaIndex
