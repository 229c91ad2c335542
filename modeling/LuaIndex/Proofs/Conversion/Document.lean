import LuaIndex.Conversion
import LuaIndex.Proofs.Edit.Acceptance
import LuaIndex.Proofs.Edit.Splicing
import LuaIndex.Proofs.Source.Patterns

namespace LuaIndex

/-- The edit that a splice of columns makes on a line. -/
def Splice.onLine (line : Nat) (s : Splice) : Edit :=
  ⟨.onLine line s.start s.stop, s.text⟩

namespace Conversion

/-- What is put where on a line, by columns. -/
def lineSplices (module : Text) (names : List Text) (l : Text) : List Splice :=
  match LineKind.of l with
  | .statement span => [⟨span.start, span.stop, tableText span.name⟩]
  | .definition span => [⟨span.start, span.stop, qualified module span.name⟩]
  | .other => (CallSite.find names l).map
      fun span => ⟨span.start, span.stop, qualified module span.name⟩

/-- The statement that returns the table, on the last line. -/
def exportSplice (module last : Text) : Splice :=
  let statement := "return ".toList ++ module ++ ";\n".toList
  if (Text.strip last).isEmpty then ⟨0, 0, '\n' :: statement⟩
  else ⟨last.length, last.length, '\n' :: '\n' :: statement⟩

def lastSplices (module : Text) (names : List Text) (last : Text) : List Splice :=
  lineSplices module names last ++ [exportSplice module last]

/-- The edits of the lines from number `line` on, one line after the other. -/
def documentEdits (module : Text) (names : List Text) (line : Nat) :
    (ls : List Text) → (last : Text) → List Edit
  | [], last => (lastSplices module names last).map (Splice.onLine line)
  | l :: ls, last =>
    (lineSplices module names l).map (Splice.onLine line) ++
      documentEdits module names (line + 1) ls last

/-- The same by offsets, the first line at `base`. -/
def documentSplices (module : Text) (names : List Text) (base : Nat) :
    (ls : List Text) → (last : Text) → List Splice
  | [], last => (lastSplices module names last).map (Splice.shift base)
  | l :: ls, last =>
    (lineSplices module names l).map (Splice.shift base) ++
      documentSplices module names (base + (l.length + 1)) ls last

theorem LineKind.of_eq_statement {l : Text} {span : Span} (h : LineKind.of l = .statement span) :
    Declaration.findStatement? l = some span := by
  unfold LineKind.of at h
  split at h
  case h_1 found hf => exact hf.trans (congrArg some (LineKind.statement.inj h))
  case h_2 => split at h <;> cases h

theorem LineKind.of_eq_definition {l : Text} {span : Span} (h : LineKind.of l = .definition span) :
    Definition.findTopLevel? l = some span := by
  unfold LineKind.of at h
  split at h
  case h_1 => cases h
  case h_2 =>
    split at h
    case h_1 found hf => exact hf.trans (congrArg some (LineKind.definition.inj h))
    case h_2 => cases h

variable {module : Text} {names : List Text}

theorem exportEdit_concat (ls : List Text) (last : Text) :
    exportEdit module (ls ++ [last]) = (exportSplice module last).onLine ls.length := by
  have hline : (((ls ++ [last]).length : Int) - 1) = ls.length := by simp
  simp only [exportEdit, exportSplice, hline]
  split <;> simp_all [Splice.onLine, Range.onLine]

/-- The passes find the edits of the document and no others. -/
theorem passes_perm_documentEdits (module : Text) (names : List Text) (line : Nat)
    (ls : List Text) (last : Text) :
    (declarationEdits module line (ls ++ [last]) ++ callEdits module names line (ls ++ [last]) ++
      [(exportSplice module last).onLine (line + ls.length)]).Perm
      (documentEdits module names line ls last) := by
  induction ls generalizing line with
  | nil =>
    cases hk : LineKind.of last <;>
      simp [declarationEdits, callEdits, documentEdits, lastSplices, lineSplices, hk, Span.range,
        Splice.onLine, Function.comp_def]
  | cons l ls ih =>
    have hrest := ih (line + 1)
    rw [show line + 1 + ls.length = line + (l :: ls).length by simp only [List.length_cons]; omega]
      at hrest
    simp only [List.cons_append, declarationEdits, callEdits, documentEdits, lineSplices]
    cases hk : LineKind.of l with
    | statement span => exact hrest.cons _
    | definition span => exact hrest.cons _
    | other =>
      have hmap : ((CallSite.find names l).map fun span =>
          (⟨span.range line, qualified module span.name⟩ : Edit)) =
          ((CallSite.find names l).map fun span =>
            (⟨span.start, span.stop, qualified module span.name⟩ : Splice)).map
              (Splice.onLine line) := by
        simp [Span.range, Splice.onLine, Function.comp_def]
      dsimp only
      rw [hmap]
      refine List.Perm.trans ?_ (hrest.append_left _)
      simp only [List.append_assoc]
      exact List.perm_append_comm_assoc _ _ _

theorem lineSplices_follow (module : Text) (hn : ∀ n ∈ names, n ≠ []) (l : Text) :
    Splice.Follow l.length 0 (lineSplices module names l) ∧
      ∀ s ∈ lineSplices module names l, s.start < s.stop ∧ '(' ∈ l := by
  unfold lineSplices
  split
  case h_1 span hk =>
    have hb := Declaration.findStatement?_bounds (LineKind.of_eq_statement hk)
    refine ⟨⟨by simp, by simp; omega, by simpa [Splice.Follow] using hb.2.1⟩, ?_⟩
    intro s hs
    obtain rfl := List.mem_singleton.mp hs
    exact ⟨by simp [hb.1], hb.2.2⟩
  case h_2 span hk =>
    have hb := Definition.read?_bounds (LineKind.of_eq_definition hk)
    refine ⟨⟨by simp, by simp; omega, by simpa [Splice.Follow] using hb.2.1⟩, ?_⟩
    intro s hs
    obtain rfl := List.mem_singleton.mp hs
    exact ⟨by simp [hb.1], hb.2.2⟩
  case h_3 =>
    have hcall : ∀ s ∈ CallSite.find names l, s.start < s.stop ∧ s.stop < l.length ∧ '(' ∈ l := by
      intro s hs
      have hc := CallSite.isCall_of_mem_find hs
      have hname := List.length_pos_iff.mpr (hn s.name hc.1)
      have hstop := hc.2.1
      exact ⟨by omega, hc.bounds⟩
    refine ⟨Splice.follow_of_pairwise (by simp) ?_ ?_, ?_⟩
    · intro x hx
      obtain ⟨s, hs, rfl⟩ := List.mem_map.mp hx
      have hb := hcall s hs
      exact ⟨by simp, by simp; omega, by simp; omega⟩
    · rw [List.pairwise_map]
      exact (CallSite.find_pairwise names l).imp fun {a b} hab => by simp; omega
    · intro x hx
      obtain ⟨s, hs, rfl⟩ := List.mem_map.mp hx
      have hb := hcall s hs
      exact ⟨by simp [hb.1], hb.2.2⟩

theorem lineSplices_of_blank (hn : ∀ n ∈ names, n ≠ []) {l : Text} (hl : Text.strip l = []) :
    lineSplices module names l = [] := by
  rw [List.eq_nil_iff_forall_not_mem]
  intro s hs
  have hparen := ((lineSplices_follow module hn l).2 s hs).2
  have hblank := Text.strip_eq_nil_iff.mp hl '(' hparen
  revert hblank
  decide

theorem lastSplices_follow (module : Text) (hn : ∀ n ∈ names, n ≠ []) (last : Text) :
    Splice.Follow last.length 0 (lastSplices module names last) := by
  unfold lastSplices exportSplice
  by_cases hblank : Text.strip last = []
  · rw [lineSplices_of_blank hn hblank]
    simp [hblank, Splice.Follow]
  · have hempty : ¬ (Text.strip last).isEmpty = true := by simpa using hblank
    simp only [hempty]
    refine (lineSplices_follow module hn last).1.append ⟨?_, ?_, ?_⟩
    · exact Int.le_refl _
    · exact Int.le_refl _
    · exact Int.le_refl _

/-- Splices of one line become edits that lie one before the other, if all but the last replace
something. -/
theorem pairwise_onLine (line : Nat) {limit : Nat} {cursor : Int} {ss : List Splice} {s : Splice}
    (hf : Splice.Follow limit cursor (ss ++ [s])) (hss : ∀ x ∈ ss, x.start < x.stop) :
    ((ss ++ [s]).map (Splice.onLine line)).Pairwise fun x y => x.range.Before y.range := by
  have hp := hf.pairwise_stop_le
  rw [List.pairwise_map]
  rw [List.pairwise_append] at hp ⊢
  have hbefore : ∀ x ∈ ss, ∀ y : Splice, x.stop ≤ y.start →
      (x.onLine line).range.Before (y.onLine line).range := by
    intro x hx y hxy
    have hlt := hss x hx
    simp only [Range.Before, Splice.onLine, Range.onLine, Position.lt_iff, Position.le_iff]
    exact ⟨Or.inr ⟨trivial, hlt⟩, Or.inr ⟨trivial, hxy⟩⟩
  refine ⟨?_, by simp, fun x hx y hy => hbefore x hx y (hp.2.2 x hx y hy)⟩
  exact hp.1.imp_of_mem fun hx _ hxy => hbefore _ hx _ hxy

theorem line_le_of_mem_documentEdits {line : Nat} {ls : List Text} {last : Text} {e : Edit}
    (h : e ∈ documentEdits module names line ls last) : (line : Int) ≤ e.range.start.line := by
  induction ls generalizing line with
  | nil =>
    obtain ⟨s, -, rfl⟩ := List.mem_map.mp h
    exact Int.le_refl _
  | cons l ls ih =>
    rcases List.mem_append.mp h with h | h
    · obtain ⟨s, -, rfl⟩ := List.mem_map.mp h
      exact Int.le_refl _
    · have hnext := ih h
      omega

theorem documentEdits_pairwise (hn : ∀ n ∈ names, n ≠ []) (line : Nat) (ls : List Text)
    (last : Text) :
    (documentEdits module names line ls last).Pairwise fun x y => x.range.Before y.range := by
  induction ls generalizing line with
  | nil =>
    refine pairwise_onLine line (lastSplices_follow module hn last) ?_
    exact fun x hx => ((lineSplices_follow module hn last).2 x hx).1
  | cons l ls ih =>
    have hline := lineSplices_follow module hn l
    refine List.pairwise_append.mpr ⟨?_, ih (line + 1), ?_⟩
    · -- a line is as good as one with an insertion at its end
      have hinsert : Splice.Follow l.length l.length [⟨l.length, l.length, []⟩] :=
        ⟨Int.le_refl _, Int.le_refl _, Int.le_refl _⟩
      have hend := hline.1.append hinsert
      have hall := pairwise_onLine line hend fun x hx => (hline.2 x hx).1
      rw [List.map_append] at hall
      exact (List.pairwise_append.mp hall).1
    · intro x hx y hy
      obtain ⟨s, hs, rfl⟩ := List.mem_map.mp hx
      have hlt := (hline.2 s hs).1
      have hnext := line_le_of_mem_documentEdits hy
      simp only [Range.Before, Splice.onLine, Range.onLine, Position.lt_iff, Position.le_iff]
      exact ⟨Or.inr ⟨trivial, hlt⟩, Or.inl (by omega)⟩

/-- Splices of one line become the splices of the whole text that lie as far in as the line does. -/
theorem resolveAll_onLine {source l : Text} {pre post : List Text}
    (h : Text.lines source = pre ++ l :: post) {cursor : Int} {ss : List Splice}
    (h0 : 0 ≤ cursor) (hf : Splice.Follow l.length cursor ss) :
    Edit.resolveAll source (ss.map (Splice.onLine pre.length)) =
      .ok (ss.map (Splice.shift (Text.lead pre).length)) := by
  induction ss generalizing cursor with
  | nil => rfl
  | cons s ss ih =>
    have hs := hf.1
    have hl := hf.2.1
    have hlimit := hf.2.2.cursor_le
    obtain ⟨a, ha⟩ := Int.eq_ofNat_of_zero_le (show 0 ≤ s.start by omega)
    obtain ⟨b, hb⟩ := Int.eq_ofNat_of_zero_le (show 0 ≤ s.stop by omega)
    have hstart := Edit.offset_of_lines h (show a ≤ l.length by omega)
    have hstop := Edit.offset_of_lines h (show b ≤ l.length by omega)
    have hres : Edit.resolve source (s.onLine pre.length) =
        .ok (s.shift (Text.lead pre).length) := by
      simp only [Edit.resolve, Splice.onLine, Range.onLine, ha, hb, hstart, hstop, Splice.shift]
      rfl
    simp only [List.map_cons, Edit.resolveAll, hres, ih (by omega) hf.2.2]

theorem resolveAll_documentEdits (module : Text) (hn : ∀ n ∈ names, n ≠ []) {source last : Text}
    (pre ls : List Text) (h : Text.lines source = pre ++ (ls ++ [last])) :
    Edit.resolveAll source (documentEdits module names pre.length ls last) =
      .ok (documentSplices module names (Text.lead pre).length ls last) := by
  induction ls generalizing pre with
  | nil => exact resolveAll_onLine h (Int.le_refl 0) (lastSplices_follow module hn last)
  | cons l ls ih =>
    have hnext := ih (pre ++ [l]) (by simpa using h)
    have hlead : (Text.lead (pre ++ [l])).length = (Text.lead pre).length + (l.length + 1) := by
      simp
    rw [hlead, List.length_append] at hnext
    exact Edit.resolveAll_append
      (resolveAll_onLine h (Int.le_refl 0) (lineSplices_follow module hn l).1) hnext

theorem documentSplices_follow (module : Text) (hn : ∀ n ∈ names, n ≠ []) (base : Nat)
    (ls : List Text) (last : Text) :
    Splice.Follow (base + (Text.unlines (ls ++ [last])).length) base
      (documentSplices module names base ls last) := by
  induction ls generalizing base with
  | nil =>
    have hlast := (lastSplices_follow module hn last).shift base
    simpa [documentSplices, Text.unlines] using hlast
  | cons l ls ih =>
    have hline := (lineSplices_follow module hn l).1.shift base
    have hrest := ih (base + (l.length + 1))
    have hlen : base + (l.length + 1) + (Text.unlines (ls ++ [last])).length =
        base + (Text.unlines (l :: ls ++ [last])).length := by
      rw [List.cons_append, Text.unlines_cons l (by simp)]
      simp only [List.length_append, List.length_cons]
      omega
    rw [hlen] at hrest
    refine Splice.Follow.append (by simpa using hline) (hrest.weaken ?_)
    omega

theorem foldr_put_documentSplices (module : Text) (hn : ∀ n ∈ names, n ≠ []) (p : Text)
    (ls : List Text) (last : Text) :
    (documentSplices module names p.length ls last).foldr Splice.put
        (p ++ Text.unlines (ls ++ [last])) =
      p ++ Text.unlines (ls.map (fun l => (lineSplices module names l).foldr Splice.put l) ++
        [(lastSplices module names last).foldr Splice.put last]) := by
  induction ls generalizing p with
  | nil =>
    have hlast := Splice.foldr_put_shift (lastSplices_follow module hn last)
      (Int.le_refl 0) p []
    simpa [documentSplices, Text.unlines] using hlast
  | cons l ls ih =>
    have hrest := ih (p ++ (l ++ ['\n']))
    have hline := Splice.foldr_put_shift (lineSplices_follow module hn l).1
      (Int.le_refl 0) p ('\n' :: Text.unlines (ls.map
        (fun l => (lineSplices module names l).foldr Splice.put l) ++
        [(lastSplices module names last).foldr Splice.put last]))
    have hlen : (p ++ (l ++ ['\n'])).length = p.length + (l.length + 1) := by simp
    rw [hlen] at hrest
    rw [List.cons_append, List.map_cons, List.cons_append, Text.unlines_cons l (by simp),
      Text.unlines_cons _ (by simp), documentSplices, List.foldr_append]
    rw [← hline]
    congr 1
    simpa using hrest

theorem ne_nil_of_mem_topLevelNames {ls : List Text} {n : Text} (h : n ∈ topLevelNames ls) :
    n ≠ [] ∧ ∀ c ∈ n, Text.isWord c = true := by
  obtain ⟨l, -, hl⟩ := List.mem_filterMap.mp h
  cases hk : LineKind.of l with
  | statement span => simp [hk] at hl
  | other => simp [hk] at hl
  | definition span =>
    simp only [hk, Option.some.injEq] at hl
    obtain ⟨gap, gap', rest, -, -, hw, hne, -⟩ :=
      Definition.read?_eq_some (LineKind.of_eq_definition hk)
    rw [← hl]
    exact ⟨hne, hw⟩

/-- A conversion never fails; it gives the edits of the document in order. -/
theorem edits_eq_documentEdits {source module last : Text} {ls : List Text}
    (hm : moduleName? source = some module) (hl : Text.lines source = ls ++ [last]) :
    edits source = .ok (documentEdits module (topLevelNames (ls ++ [last])) 0 ls last) := by
  have hn : ∀ n ∈ topLevelNames (ls ++ [last]), n ≠ [] :=
    fun n h => (ne_nil_of_mem_topLevelNames h).1
  have hp := passes_perm_documentEdits module (topLevelNames (ls ++ [last])) 0 ls last
  have hsteps : steps module source = declarationEdits module 0 (ls ++ [last]) ++
      callEdits module (topLevelNames (ls ++ [last])) 0 (ls ++ [last]) ++
      [(exportSplice module last).onLine (0 + ls.length)] := by
    simp only [steps, hl, exportEdit_concat, Nat.zero_add]
  simp only [edits, hm]
  rw [hsteps]
  exact EditBuilder.edits_addAll_of_perm hp (documentEdits_pairwise hn 0 ls last)

end Conversion

end LuaIndex
