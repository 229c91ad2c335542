import LuaIndex.Proofs.Source.Declarations

namespace LuaIndex.Declaration

/-- The text of the declaration has no line feed. -/
def Match.OnOneLine (source : Text) (m : Match) : Prop :=
  '\n' ∉ (source.drop m.start).take (m.stop - m.start)

instance (source : Text) (m : Match) : Decidable (m.OnOneLine source) :=
  inferInstanceAs (Decidable (¬ _))

/-- The number of the line on which the declaration starts. -/
def Match.line (source : Text) (m : Match) : Nat :=
  (source.take m.start).count '\n'

/-- A text starts with a declaration if it is one with something after it. -/
theorem read?_eq_some_iff_append {t name rest : Text} :
    read? t = some ⟨name, rest⟩ ↔ ∃ w, read? w = some ⟨name, []⟩ ∧ t = w ++ rest := by
  constructor
  · intro h
    obtain ⟨q, q', filler, hq, hq', hne, hw, hf, rfl⟩ := read?_eq_some_iff.mp h
    refine ⟨spelled q name q' filler, read?_eq_some_iff.mpr ?_, rfl⟩
    exact ⟨q, q', filler, hq, hq', hne, hw, hf, by simp⟩
  · rintro ⟨w, hw, rfl⟩
    exact read?_append hw rest

theorem readStatement?_ne_none {t name rest : Text} (h : read? t = some ⟨name, ';' :: rest⟩) :
    readStatement? t ≠ none := by
  simp only [readStatement?, h]
  exact Option.some_ne_none _

theorem mem_findAll {source : Text} {m : Match} :
    m ∈ findAll source ↔
      ∃ p w rest, source = p ++ (w ++ rest) ∧ read? w = some ⟨m.name, []⟩ ∧ m.start = p.length ∧
        m.stop = p.length + w.length ∧ m.closed = (rest.head? == some ';') := by
  rw [findAll_eq_startsFrom, mem_startsFrom]
  constructor
  · rintro ⟨p, r, rfl, hm⟩
    obtain ⟨rest, hr, hstart, hstop, hclosed⟩ := matchAt?_eq_some hm
    obtain ⟨w, hw, rfl⟩ := read?_eq_some_iff_append.mp hr
    refine ⟨p, w, rest, rfl, hw, by omega, ?_, hclosed⟩
    simp only [List.length_append] at hstop
    omega
  · rintro ⟨p, w, rest, rfl, hw, hstart, hstop, hclosed⟩
    obtain ⟨start, stop, name, closed⟩ := m
    dsimp only at hw hstart hstop hclosed
    refine ⟨p, w ++ rest, rfl, ?_⟩
    have hlen : (w ++ rest).length - rest.length = w.length := by
      simp only [List.length_append]
      omega
    have hr := read?_append hw rest
    rw [List.nil_append] at hr
    simp only [matchAt?, hr, Option.map_some, hlen, hstart, hstop, hclosed, Nat.zero_add]

/-- Declarations that start at one place are one. -/
theorem eq_of_start_eq {source : Text} {m m' : Match} (hm : m ∈ findAll source)
    (hm' : m' ∈ findAll source) (h : m.start = m'.start) : m = m' := by
  rw [findAll_eq_startsFrom, mem_startsFrom] at hm hm'
  obtain ⟨p, r, hs, hr⟩ := hm
  obtain ⟨p', r', hs', hr'⟩ := hm'
  obtain ⟨-, -, hstart, -⟩ := matchAt?_eq_some hr
  obtain ⟨-, -, hstart', -⟩ := matchAt?_eq_some hr'
  obtain ⟨rfl, rfl⟩ := List.append_inj (hs.symm.trans hs') (by omega)
  exact Option.some.inj (hr.symm.trans hr')

/-- A statement that lies within a line is a statement of that line. -/
theorem exists_line_of_closed {source : Text} {m : Match} (hm : m ∈ findAll source)
    (hclosed : m.closed = true) (hone : m.OnOneLine source) :
    ∃ pre a r post, Text.lines source = pre ++ (a ++ r) :: post ∧ readStatement? r ≠ none ∧
      m.start = (Text.lead pre).length + a.length ∧ m.line source = pre.length := by
  obtain ⟨p, w, rest, rfl, hw, hstart, hstop, hc⟩ := mem_findAll.mp hm
  obtain ⟨rest, rfl⟩ : ∃ rest', rest = ';' :: rest' := by
    cases rest with
    | nil => simp [hclosed] at hc
    | cons c rest =>
      obtain rfl : c = ';' := by simpa [hclosed] using hc.symm
      exact ⟨rest, rfl⟩
  have hnl : '\n' ∉ w := by
    simpa [Match.OnOneLine, hstart, hstop] using hone
  obtain ⟨pre, a, hp⟩ := Text.exists_lines_eq_concat p
  obtain ⟨b, post, hrest⟩ := List.exists_cons_of_ne_nil (Text.lines_ne_nil rest)
  have hsemi : Text.lines (w ++ [';']) = [] ++ [w ++ [';']] :=
    Text.lines_of_not_mem (by simp [hnl])
  have hline := Text.lines_append hp (Text.lines_append hsemi hrest)
  have hlead : Text.lead pre ++ a = p := (Text.eq_lead_append hp).symm
  refine ⟨pre, a, w ++ [';'] ++ b, post, by simpa using hline, ?_, ?_, ?_⟩
  · have hread : read? (w ++ [';'] ++ b) = some ⟨m.name, ';' :: b⟩ :=
      read?_eq_some_iff_append.mpr ⟨w, hw, by simp⟩
    exact readStatement?_ne_none hread
  · rw [hstart, ← hlead, List.length_append]
  · have hmem : ∀ l ∈ pre ++ [a], '\n' ∉ l := fun l hl => Text.not_mem_lines (hp ▸ hl)
    rw [Match.line, hstart, List.take_left, ← hlead]
    exact Text.count_lead_append (fun l hl => hmem l (by simp [hl])) (hmem a (by simp))

/-- A statement of a line is a statement of the text that lies within that line. -/
theorem exists_closed_of_line {source a r : Text} {pre post : List Text}
    (hl : Text.lines source = pre ++ (a ++ r) :: post) (hr : readStatement? r ≠ none) :
    ∃ m ∈ findAll source, m.closed = true ∧ m.OnOneLine source ∧
      m.start = (Text.lead pre).length + a.length ∧ m.line source = pre.length := by
  obtain ⟨span, hspan⟩ := Option.ne_none_iff_exists'.mp hr
  obtain ⟨rest, hread, -, -⟩ := readStatement?_eq_some_iff.mp hspan
  obtain ⟨w, hw, rfl⟩ := read?_eq_some_iff_append.mp hread
  have hmem : ∀ l ∈ pre ++ (a ++ (w ++ ';' :: rest)) :: post, '\n' ∉ l :=
    fun l h => Text.not_mem_lines (hl ▸ h)
  have hline := hmem (a ++ (w ++ ';' :: rest)) (by simp)
  simp only [List.mem_append, not_or] at hline
  obtain ⟨z, hz⟩ : ∃ z, source = (Text.lead pre ++ a) ++ (w ++ ';' :: (rest ++ z)) := by
    obtain ⟨z, hz⟩ := Text.exists_eq_lead_append hl
    exact ⟨z, by rw [hz]; simp⟩
  refine ⟨⟨(Text.lead pre ++ a).length, (Text.lead pre ++ a).length + w.length, span.name, true⟩,
    mem_findAll.mpr ⟨_, w, _, hz, hw, rfl, rfl, rfl⟩, rfl, ?_, by simp, ?_⟩
  · simpa [Match.OnOneLine, hz] using hline.2.1
  · rw [Match.line, hz, List.take_left]
    exact Text.count_lead_append (fun l h => hmem l (by simp [h])) hline.1

theorem findName?_eq_none_iff {t : Text} : findName? t = none ↔ findAll t = [] := by
  rw [findName?, Option.map_eq_none_iff, Text.search_eq_none_iff, List.eq_nil_iff_forall_not_mem]
  constructor
  · intro h m hm
    obtain ⟨p, w, rest, rfl, hw, -⟩ := mem_findAll.mp hm
    have hnone := h p (w ++ rest) rfl
    rw [read?_append hw rest] at hnone
    cases hnone
  · rintro h p r rfl
    cases hr : read? r with
    | none => rfl
    | some d =>
      obtain ⟨w, hw, rfl⟩ := read?_eq_some_iff_append.mp hr
      exact absurd (mem_findAll.mpr ⟨p, w, d.rest, rfl, hw, rfl, rfl, rfl⟩)
        (h ⟨p.length, p.length + w.length, d.name, d.rest.head? == some ';'⟩)

theorem findStatement?_eq_none_iff {t : Text} :
    findStatement? t = none ↔ ∀ m ∈ findAll t, m.closed = false := by
  rw [findStatement?, Option.map_eq_none_iff, Text.search_eq_none_iff]
  constructor
  · intro h m hm
    obtain ⟨p, w, rest, rfl, hw, -, -, hclosed⟩ := mem_findAll.mp hm
    rw [hclosed]
    cases rest with
    | nil => rfl
    | cons c rest =>
      refine beq_eq_false_iff_ne.mpr fun hc => ?_
      obtain rfl : c = ';' := by simpa using hc
      have hnone := h p (w ++ ';' :: rest) rfl
      simp only [readStatement?, read?_append hw] at hnone
      cases hnone
  · rintro h p r rfl
    cases hr : readStatement? r with
    | none => rfl
    | some span =>
      obtain ⟨rest, hread, -⟩ := readStatement?_eq_some_iff.mp hr
      obtain ⟨w, hw, rfl⟩ := read?_eq_some_iff_append.mp hread
      have hopen := h ⟨p.length, p.length + w.length, span.name, true⟩
        (mem_findAll.mpr ⟨p, w, ';' :: rest, rfl, hw, rfl, rfl, rfl⟩)
      cases hopen

end LuaIndex.Declaration
