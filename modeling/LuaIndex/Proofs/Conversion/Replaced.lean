import LuaIndex.Proofs.Conversion.Declarations
import LuaIndex.Proofs.Source.Statements

namespace LuaIndex.Conversion

open Declaration

/-- The conversion replaces a declaration: it is a statement that lies within a line, and the first
such statement there. -/
def Replaced (source : Text) (m : Match) : Prop :=
  m.closed = true ∧ m.OnOneLine source ∧
    ∀ m' ∈ findAll source, m'.closed = true → m'.OnOneLine source →
      m'.line source = m.line source → m.start ≤ m'.start

instance (source : Text) : DecidablePred (Replaced source) :=
  fun _ => inferInstanceAs (Decidable (_ ∧ _ ∧ _))

theorem mem_replacedFrom {o base : Nat} {ls : List Text} :
    o ∈ replacedFrom base ls ↔
      ∃ pre l post span, ls = pre ++ l :: post ∧ findStatement? l = some span ∧
        o = base + (Text.lead pre).length + span.start := by
  induction ls generalizing base with
  | nil => simp [replacedFrom]
  | cons l ls ih =>
    rw [replacedFrom, List.mem_append, ih]
    constructor
    · rintro (h | ⟨pre, l', post, span, rfl, hs, rfl⟩)
      · unfold replacedOn at h
        split at h
        case h_1 span hs => exact ⟨[], l, ls, span, rfl, hs, by simpa using h⟩
        case h_2 => cases h
      · refine ⟨l :: pre, l', post, span, rfl, hs, ?_⟩
        simp only [Text.lead, List.flatMap_cons, List.length_append, List.length_cons,
          List.length_nil]
        omega
    · rintro ⟨pre, l', post, span, hls, hs, rfl⟩
      cases pre with
      | nil =>
        obtain ⟨rfl, rfl⟩ := List.cons.inj hls
        exact Or.inl (by simp [replacedOn, hs])
      | cons b pre =>
        obtain ⟨rfl, rfl⟩ := List.cons.inj hls
        refine Or.inr ⟨pre, l', post, span, rfl, hs, ?_⟩
        simp only [Text.lead, List.flatMap_cons, List.length_append, List.length_cons,
          List.length_nil]
        omega

/-- The conversion goes by lines; which declarations it replaces shows in the text. -/
theorem mem_replacedFrom_iff_replaced {source : Text} {m : Match} (hm : m ∈ findAll source) :
    m.start ∈ replacedFrom 0 (Text.lines source) ↔ Replaced source m := by
  rw [mem_replacedFrom]
  constructor
  · rintro ⟨pre, l, post, span, hl, hs, ho⟩
    obtain ⟨a, r, rest, rfl, hstart, hr, -, hfirst⟩ := findStatement?_eq_some hs
    obtain ⟨n, hn, hclosed, hone, hnstart, hline⟩ :=
      exists_closed_of_line hl (readStatement?_ne_none hr)
    obtain rfl := eq_of_start_eq hm hn (by omega)
    refine ⟨hclosed, hone, ?_⟩
    intro m' hm' hclosed' hone' hline'
    obtain ⟨pre', a', r', post', hl', hstmt', hstart', hnum'⟩ :=
      exists_line_of_closed hm' hclosed' hone'
    obtain ⟨rfl, hsame⟩ := List.append_inj (hl.symm.trans hl') (by omega)
    have hlow : ¬ a'.length < a.length :=
      fun hlt => hstmt' (hfirst a' r' (List.cons.inj hsame).1 hlt)
    omega
  · rintro ⟨hclosed, hone, hleast⟩
    obtain ⟨pre, a, r, post, hl, hstmt, hstart, hline⟩ := exists_line_of_closed hm hclosed hone
    cases hs : findStatement? (a ++ r) with
    | none =>
      rw [findStatement?, Option.map_eq_none_iff, Text.search_eq_none_iff] at hs
      exact absurd (hs a r rfl) hstmt
    | some span =>
      refine ⟨pre, a ++ r, post, span, hl, hs, ?_⟩
      obtain ⟨b, s, rest, hsplit, hspan, hr, -, hfirst⟩ := findStatement?_eq_some hs
      rw [hsplit] at hl
      obtain ⟨n, hn, hclosed', hone', hnstart, hline'⟩ :=
        exists_closed_of_line hl (readStatement?_ne_none hr)
      have hge := hleast n hn hclosed' hone' (hline'.trans hline.symm)
      have hle : ¬ a.length < b.length := fun hlt => hstmt (hfirst a r rfl hlt)
      omega

theorem isName_of_findStatement? {t : Text} {span : Span} (h : findStatement? t = some span) :
    IsName span.name := by
  obtain ⟨_, _, _, _, _, hr, _⟩ := findStatement?_eq_some h
  obtain ⟨_, _, _, _, _, hne, hw, _⟩ := read?_eq_some_iff.mp hr
  exact ⟨hne, hw⟩

theorem isName_of_moduleName? {source module : Text} (h : moduleName? source = some module) :
    IsName module := by
  obtain ⟨span, hs, rfl⟩ := Option.map_eq_some_iff.mp h
  exact isName_of_findStatement? hs

theorem documentEdits_ne_nil (module : Text) (names : List Text) (line : Nat) (ls : List Text)
    (last : Text) : documentEdits module names line ls last ≠ [] := by
  induction ls generalizing line with
  | nil => simp [documentEdits, lastSplices]
  | cons l ls ih => exact fun h => ih (line + 1) (List.append_eq_nil_iff.mp h).2

/-- Only a text without a statement gets no edits. -/
theorem edits_eq_nil_iff {source : Text} :
    edits source = .ok [] ↔ ∀ m ∈ findAll source, m.closed = false := by
  rw [← findStatement?_eq_none_iff]
  have hname : moduleName? source = none ↔ findStatement? source = none := Option.map_eq_none_iff
  rw [← hname]
  cases hm : moduleName? source with
  | none => simp [edits, hm]
  | some module =>
    obtain ⟨ls, last, hl⟩ := Text.exists_lines_eq_concat source
    rw [edits_eq_documentEdits hm hl]
    simp [documentEdits_ne_nil]

/-- A converted text has the declarations of the original that are not replaced, in their order. -/
theorem exists_applyAll_marks (source : Text) :
    ∃ es text, edits source = .ok es ∧ Edit.applyAll source es = .ok text ∧
      (findAll text).map Match.mark =
        ((findAll source).filter fun m => ¬ Replaced source m).map Match.mark := by
  cases hm : moduleName? source with
  | none =>
    have hopen := findStatement?_eq_none_iff.mp (Option.map_eq_none_iff.mp hm)
    have hall : (findAll source).filter (fun m => ¬ Replaced source m) = findAll source := by
      refine List.filter_eq_self.mpr fun m hmem => ?_
      simp [Replaced, hopen m hmem]
    have hfollow : Splice.Follow source.length 0 [] := Int.natCast_nonneg _
    have hsame : Edit.applyAll source [] = .ok source := Edit.applyAll_of_follow rfl hfollow
    exact ⟨[], source, by simp [edits, hm], hsame, by rw [hall]⟩
  | some module =>
    obtain ⟨es, hes, htext⟩ := exists_applyAll_edits hm
    refine ⟨es, lineByLine module source, hes, htext, ?_⟩
    obtain ⟨ls, last, hl⟩ := Text.exists_lines_eq_concat source
    have hplain : EndsPlain [] := by
      intro c hc
      cases hc
    have hn : ∀ n ∈ topLevelNames (ls ++ [last]), IsName n :=
      fun n h => ne_nil_of_mem_topLevelNames h
    have hkeep := keeps_lines (isName_of_moduleName? hm) hn ls last (k := 0) (p := []) rfl hplain
    have htarget : lineByLine module source = Text.unlines (ls.map
        (convertLine module (topLevelNames (ls ++ [last]))) ++
          [withReturn module (convertLine module (topLevelNames (ls ++ [last])) last)]) := by
      simp [lineByLine, hl]
    rw [List.nil_append, List.nil_append, ← htarget, ← hl, Text.unlines_lines,
      ← findAll_eq_startsFrom, ← findAll_eq_startsFrom] at hkeep
    rw [hkeep, marksWithout]
    congr 1
    refine List.filter_congr fun m hmem => ?_
    have hiff := mem_replacedFrom_iff_replaced hmem
    exact decide_eq_decide.mpr (not_congr hiff)

/-- The first statement within a line is the only one replaced there, so that all are replaced exactly
if each lies within a line of its own. -/
theorem forall_replaced_iff {source : Text} :
    (∀ m ∈ findAll source, m.closed = true → Replaced source m) ↔
      (∀ m ∈ findAll source, m.closed = true → m.OnOneLine source) ∧
        ∀ m ∈ findAll source, ∀ m' ∈ findAll source, m.closed = true → m'.closed = true →
          m.line source = m'.line source → m = m' := by
  constructor
  · intro h
    refine ⟨fun m hm hclosed => (h m hm hclosed).2.1, ?_⟩
    intro m hm m' hm' hclosed hclosed' hline
    have hr := h m hm hclosed
    have hr' := h m' hm' hclosed'
    have hle := hr.2.2 m' hm' hclosed' hr'.2.1 hline.symm
    have hge := hr'.2.2 m hm hclosed hr.2.1 hline
    exact eq_of_start_eq hm hm' (by omega)
  · rintro ⟨hone, hunique⟩ m hm hclosed
    refine ⟨hclosed, hone m hm hclosed, ?_⟩
    intro m' hm' hclosed' _ hline
    rw [hunique m' hm' m hm hclosed' hclosed hline]

/-- A conversion makes, breaks and joins no declaration. The names declared in the new text are those
of the old one without the statements that were replaced, the first within each line. So a second
conversion has nothing to do exactly if every statement lay within one line and no line held two, and a
scan of the new text finds no module exactly if every declaration was replaced. -/
theorem declarations_applyAll_edits (source : Text) :
    ∃ es text, edits source = .ok es ∧ Edit.applyAll source es = .ok text ∧
      (findAll text).map Match.name =
        ((findAll source).filter fun m => ¬ Replaced source m).map Match.name ∧
      (edits text = .ok [] ↔
        (∀ m ∈ findAll source, m.closed = true → m.OnOneLine source) ∧
          ∀ m ∈ findAll source, ∀ m' ∈ findAll source, m.closed = true → m'.closed = true →
            m.line source = m'.line source → m = m') ∧
      ∀ lookback path, ModuleInfo.scan? lookback path text = none ↔
        ∀ m ∈ findAll source, Replaced source m := by
  obtain ⟨es, text, hes, htext, hmarks⟩ := exists_applyAll_marks source
  refine ⟨es, text, hes, htext, ?_, ?_, ?_⟩
  · have hnames := congrArg (List.map Prod.fst) hmarks
    rw [List.map_map, List.map_map] at hnames
    exact hnames
  · rw [edits_eq_nil_iff, ← forall_replaced_iff]
    have hclosed : (∀ m ∈ findAll text, m.closed = false) ↔
        ∀ x ∈ (findAll text).map Match.mark, x.2 = false := by
      rw [List.forall_mem_map]
      rfl
    rw [hclosed, hmarks, List.forall_mem_map]
    constructor
    · intro h m hm hc
      by_contra hkept
      have hopen : m.closed = false := h m (List.mem_filter.mpr ⟨hm, by simp [hkept]⟩)
      rw [hc] at hopen
      cases hopen
    · intro h m hm
      obtain ⟨hmem, hkept⟩ := List.mem_filter.mp hm
      cases hc : m.closed with
      | false => exact hc
      | true => exact absurd (h m hmem hc) (by simpa using hkept)
  · intro lookback path
    have hnil : findAll text = [] ↔ (findAll source).filter (fun m => ¬ Replaced source m) = [] := by
      rw [← List.map_eq_nil_iff (f := Match.mark), hmarks, List.map_eq_nil_iff]
    rw [ModuleInfo.scan?, Option.map_eq_none_iff, findName?_eq_none_iff, hnil, List.filter_eq_nil_iff]
    simp

end LuaIndex.Conversion
