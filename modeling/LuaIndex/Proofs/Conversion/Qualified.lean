import LuaIndex.Proofs.Conversion.LineByLine
import LuaIndex.Proofs.Conversion.Placement
import LuaIndex.Proofs.Text.LineBreaks
import Mathlib.Data.Set.Card

namespace LuaIndex

namespace Text

/-- The text with `new` put in before the characters at the given columns, of which the first character has
number `k`. All characters of the text stay. -/
def putBefore (columns : List Nat) (new : Text) (k : Nat) : Text → Text
  | [] => []
  | c :: rest => (if k ∈ columns then new else []) ++ c :: putBefore columns new (k + 1) rest

variable {columns : List Nat} {new : Text} {k : Nat}

theorem putBefore_append (p t : Text) :
    putBefore columns new k (p ++ t) =
      putBefore columns new k p ++ putBefore columns new (k + p.length) t := by
  induction p generalizing k with
  | nil => rfl
  | cons c p ih =>
    rw [List.cons_append, putBefore, ih, putBefore, List.length_cons, Nat.add_right_comm, Nat.add_assoc]
    simp

theorem putBefore_of_not_mem {t : Text} (h : ∀ i ∈ columns, k + t.length ≤ i) :
    putBefore columns new k t = t := by
  induction t generalizing k with
  | nil => rfl
  | cons c t ih =>
    have hk : k ∉ columns := by
      intro hmem
      have hle := h k hmem
      rw [List.length_cons] at hle
      omega
    have hrest : putBefore columns new (k + 1) t = t := by
      apply ih
      intro i hi
      have hle := h i hi
      rw [List.length_cons] at hle
      omega
    rw [putBefore, if_neg hk, hrest, List.nil_append]

theorem putBefore_cons_of_lt {i : Nat} (h : i < k) (t : Text) :
    putBefore (i :: columns) new k t = putBefore columns new k t := by
  induction t generalizing k with
  | nil => rfl
  | cons c t ih =>
    have hk : k ∈ i :: columns ↔ k ∈ columns := by simp [show k ≠ i by omega]
    simp only [putBefore, hk, ih (show i < k + 1 by omega)]

/-- Text before all columns stays. -/
theorem putBefore_beyond {p : Text} (h : ∀ i ∈ columns, k + p.length ≤ i) (t : Text) :
    putBefore columns new k (p ++ t) = p ++ putBefore columns new (k + p.length) t := by
  rw [putBefore_append, putBefore_of_not_mem h]

theorem putBefore_first {w : Text} (hw : w ≠ []) (h : ∀ i ∈ columns, k + w.length ≤ i) (t : Text) :
    putBefore (k :: columns) new k (w ++ t) =
      new ++ (w ++ putBefore columns new (k + w.length) t) := by
  obtain ⟨c, w, rfl⟩ := List.exists_cons_of_ne_nil hw
  have hlength : k + 1 + w.length = k + (c :: w).length := by
    rw [List.length_cons]
    omega
  rw [List.cons_append, putBefore, if_pos List.mem_cons_self, putBefore_cons_of_lt (Nat.lt_succ_self k),
    putBefore_beyond (by rwa [hlength]), hlength]
  rfl

/-- Lines that others follow are the lines of the text they begin. -/
theorem lines_lead_append {ls : List Text} (h : ∀ l ∈ ls, '\n' ∉ l) (t : Text) :
    lines (lead ls ++ t) = ls ++ lines t := by
  induction ls with
  | nil => rfl
  | cons l ls ih =>
    have hl : '\n' ∉ l := h l List.mem_cons_self
    have hrest := ih fun m hm => h m (List.mem_cons_of_mem l hm)
    rw [show l :: ls = [l] ++ ls from rfl, lead_append, lead_singleton, List.append_assoc,
      List.append_assoc, List.singleton_append, lines_feed hl, hrest]
    rfl

end Text

namespace CallSite

/-- A whole name of a line that is one of the names, right before a parenthesis and neither right after a dot
nor right after a colon. -/
structure Callee (names : List Text) (l : Text) (s : Span) : Prop where
  whole : Text.WholeAt l s
  known : s.name ∈ names
  called : l[s.stop]? = some '('
  bare : ∀ c, (l.take s.start).getLast? = some c → c ≠ '.' ∧ c ≠ ':'

variable {names : List Text} {line : Text} {s : Span}

theorem isCall_iff_callee (hn : ∀ n ∈ names, n ≠ [] ∧ ∀ c ∈ n, Text.isWord c = true) :
    IsCall names line s ↔ Callee names line s := by
  constructor
  · intro h
    have hwhole := h.wholeAt hn
    obtain ⟨hmem, hstop, p, r, rfl, hstart, hadmits⟩ := h
    refine ⟨hwhole, hmem, ?_, ?_⟩
    · rw [hstop, hstart, ← List.append_assoc, ← List.length_append,
        List.getElem?_append_right (Nat.le_refl _)]
      simp
    · intro c hc
      rw [hstart, List.take_left] at hc
      rw [hc] at hadmits
      simp only [admits, Bool.not_eq_true', Bool.or_eq_false_iff, beq_eq_false_iff_ne] at hadmits
      exact ⟨hadmits.1.2, hadmits.2⟩
  · intro h
    obtain ⟨p, r, rfl, hstart, hbefore, -⟩ := h.whole.spelled
    have hstop := h.whole.stop
    have hparen := h.called
    rw [hstop, hstart, ← List.append_assoc, ← List.length_append,
      List.getElem?_append_right (Nat.le_refl _), Nat.sub_self, ← List.head?_eq_getElem?] at hparen
    obtain ⟨r', rfl⟩ := List.head?_eq_some_iff.mp hparen
    refine ⟨h.known, hstop, p, r', rfl, hstart, ?_⟩
    cases hc : p.getLast? with
    | none => rfl
    | some c =>
      have hbare := h.bare c (by rw [hstart, List.take_left, hc])
      simp [admits, hbefore c hc, hbare.1, hbare.2]

/-- The calls of a line are found once each, from left to right. -/
theorem ncard_callee (hn : ∀ n ∈ names, n ≠ [] ∧ ∀ c ∈ n, Text.isWord c = true) (line : Text) :
    {s | Callee names line s}.ncard = (find names line).length := by
  have hset : {s | Callee names line s} = ((find names line).toFinset : Set Span) := by
    ext s
    rw [Set.mem_ofPred_eq, List.coe_toFinset, Set.mem_ofPred_eq, ← isCall_iff_callee hn, mem_find_iff hn]
  have hnodup : (find names line).Nodup := by
    apply (find_pairwise names line).imp_of_mem
    intro a b ha _ hab he
    have hstop := (isCall_of_mem_find ha).2.1
    subst he
    omega
  rw [hset, Set.ncard_coe_finset, List.toFinset_card_of_nodup hnodup]

/-- The columns at which bare calls of a line start. -/
def starts (names : List Text) (line : Text) : List Nat :=
  (find names line).map Span.start

theorem mem_starts_iff (hn : ∀ n ∈ names, n ≠ [] ∧ ∀ c ∈ n, Text.isWord c = true) {p t : Text} :
    p.length ∈ starts names (p ++ t) ↔
      admits p.getLast? = true ∧ ∃ n r, n ∈ names ∧ t = n ++ '(' :: r := by
  constructor
  · intro h
    obtain ⟨s, hs, hstart⟩ := List.mem_map.mp h
    obtain ⟨hmem, -, q, r, hsplit, hq, hadmits⟩ := isCall_of_mem_find hs
    obtain ⟨rfl, rfl⟩ := List.append_inj hsplit (hstart.symm.trans hq)
    exact ⟨hadmits, s.name, r, hmem, rfl⟩
  · rintro ⟨hadmits, n, r, hmem, rfl⟩
    exact List.mem_map.mpr ⟨⟨n, p.length, p.length + n.length⟩,
      (mem_find_iff hn).mpr ⟨hmem, rfl, p, r, rfl, rfl, hadmits⟩, rfl⟩

/-- A name before a parenthesis in the changed text stands so in the text, if nothing is put in before it:
nothing is put in between its characters. -/
theorem exists_eq_of_putBefore_eq (hn : ∀ n ∈ names, n ≠ [] ∧ ∀ c ∈ n, Text.isWord c = true)
    {new p t w r : Text} (hw : ∀ c ∈ w, Text.isWord c = true) (hp : p.length ∉ starts names (p ++ t))
    (h : Text.putBefore (starts names (p ++ t)) new p.length t = w ++ '(' :: r) :
    ∃ r', t = w ++ '(' :: r' := by
  induction w generalizing p t with
  | nil =>
    cases t with
    | nil => simp [Text.putBefore] at h
    | cons c t =>
      rw [Text.putBefore, if_neg hp] at h
      exact ⟨t, by rw [(List.cons.inj h).1]; rfl⟩
  | cons d w ih =>
    cases t with
    | nil => simp [Text.putBefore] at h
    | cons c t =>
      rw [Text.putBefore, if_neg hp] at h
      obtain ⟨rfl, hrest⟩ := List.cons.inj h
      have hsplit : p ++ c :: t = (p ++ [c]) ++ t := by simp
      have hlength : p.length + 1 = (p ++ [c]).length := by simp
      rw [hsplit, hlength] at hrest
      have hnext : (p ++ [c]).length ∉ starts names ((p ++ [c]) ++ t) := by
        rw [mem_starts_iff hn, List.getLast?_concat]
        rintro ⟨hadmits, -⟩
        simp [admits, hw c List.mem_cons_self] at hadmits
      obtain ⟨r', rfl⟩ := ih (fun x hx => hw x (List.mem_cons_of_mem c hx)) hnext hrest
      exact ⟨r', rfl⟩

/-- A name before a parenthesis is not one before a dot. -/
theorem paren_ne_dot {n w r r' : Text} (hn : ∀ c ∈ n, Text.isWord c = true)
    (hw : ∀ c ∈ w, Text.isWord c = true) : n ++ '(' :: r ≠ w ++ '.' :: r' := by
  intro h
  have hdot : ∀ c, ('.' :: r').head? = some c → Text.isWord c = false := by
    intro c hc
    obtain rfl : '.' = c := by simpa using hc
    decide
  have hsame : n = w := by
    calc n = (n ++ '(' :: r).takeWhile Text.isWord :=
          (Text.takeWhile_append_of_stop hn (stops_paren r)).symm
      _ = (w ++ '.' :: r').takeWhile Text.isWord := by rw [h]
      _ = w := Text.takeWhile_append_of_stop hw hdot
  subst hsame
  exact absurd (List.cons.inj (List.append_cancel_left h)).1 (by decide)

/-- With a name and a dot put in before each bare call, no name before a parenthesis stands bare any more. -/
theorem not_admits_of_putBefore_eq (hn : ∀ n ∈ names, n ≠ [] ∧ ∀ c ∈ n, Text.isWord c = true)
    {field : Text} (hf : ∀ c ∈ field, Text.isWord c = true) {p t q n r : Text} (hmem : n ∈ names)
    (h : Text.putBefore (starts names (p ++ t)) (field ++ ['.']) p.length t = q ++ (n ++ '(' :: r)) :
    admits (p ++ q).getLast? = false := by
  induction t generalizing p q with
  | nil => simp [Text.putBefore] at h
  | cons c t ih =>
    have hsplit : p ++ c :: t = (p ++ [c]) ++ t := by simp
    have hlength : p.length + 1 = (p ++ [c]).length := by simp
    -- a name that starts later than `c` stands after the same character as in the text
    have hlater : ∀ q', Text.putBefore (starts names (p ++ c :: t)) (field ++ ['.']) (p.length + 1) t =
        q' ++ (n ++ '(' :: r) → ∀ a, admits (a ++ c :: q').getLast? = false := by
      intro q' hq a
      rw [hsplit, hlength] at hq
      have hno := ih hq
      rw [List.append_assoc, List.singleton_append, List.getLast?_append_of_ne_nil _ (by simp)] at hno
      rw [List.getLast?_append_of_ne_nil _ (by simp), hno]
    have hdot : admits (p ++ (field ++ ['.'])).getLast? = false := by
      rw [← List.append_assoc, List.getLast?_concat]
      decide
    rw [Text.putBefore] at h
    split at h
    case isFalse hstart =>
      cases q with
      | nil =>
        obtain ⟨r', ht⟩ := exists_eq_of_putBefore_eq hn (hn n hmem).2 hstart
          (by rw [Text.putBefore, if_neg hstart]; exact h)
        rw [List.append_nil, ← Bool.not_eq_true]
        intro hadmits
        exact hstart ((mem_starts_iff hn).mpr ⟨hadmits, n, r', hmem, ht⟩)
      | cons d q =>
        obtain ⟨rfl, hrest⟩ := List.cons.inj h
        exact hlater q hrest p
    case isTrue =>
      rcases List.append_eq_append_iff.mp h with ⟨a, rfl, ha⟩ | ⟨b, hb, hrest⟩
      · cases a with
        | nil => rwa [List.append_nil]
        | cons d a =>
          obtain ⟨rfl, hrest⟩ := List.cons.inj ha
          rw [← List.append_assoc]
          exact hlater a hrest _
      · rcases List.eq_nil_or_concat' b with rfl | ⟨w, x, rfl⟩
        · rw [List.append_nil] at hb
          rwa [← hb]
        · -- the name would have to end before the dot
          rw [← List.append_assoc] at hb
          obtain ⟨rfl, hx⟩ := List.append_inj' hb rfl
          obtain rfl := List.singleton_inj.mp hx
          have hw : ∀ c ∈ w, Text.isWord c = true := fun c hc => hf c (List.mem_append_right q hc)
          rw [List.append_assoc, List.singleton_append] at hrest
          exact absurd hrest (paren_ne_dot (hn n hmem).2 hw)

/-- The search for bare calls finds none in the changed line. -/
theorem find_putBefore_eq_nil (hn : ∀ n ∈ names, n ≠ [] ∧ ∀ c ∈ n, Text.isWord c = true) {field : Text}
    (hf : ∀ c ∈ field, Text.isWord c = true) (line : Text) :
    find names (Text.putBefore (starts names line) (field ++ ['.']) 0 line) = [] := by
  rw [List.eq_nil_iff_forall_not_mem]
  intro s hs
  obtain ⟨hmem, -, p, r, hsplit, -, hadmits⟩ := isCall_of_mem_find hs
  have hno := not_admits_of_putBefore_eq (p := []) hn hf hmem hsplit
  rw [List.nil_append, hadmits] at hno
  cases hno

end CallSite

namespace Conversion

variable {module : Text} {names : List Text}

/-- Calls replaced from the right by fields of the module get the module's name and a dot before them. -/
theorem foldr_splice_eq_putBefore (module : Text) {line : Text} {spans : List Span}
    (hp : spans.Pairwise fun a b => a.stop < b.start) (hw : ∀ s ∈ spans, Text.WholeAt line s) :
    spans.foldr (fun s l => Text.splice l s.start s.stop (qualified module s.name)) line =
      Text.putBefore (spans.map Span.start) (module ++ ['.']) 0 line := by
  induction spans with
  | nil => exact (Text.putBefore_of_not_mem (by simp)).symm
  | cons s spans ih =>
    obtain ⟨hafter, hrest⟩ := List.pairwise_cons.mp hp
    have hwhole := hw s List.mem_cons_self
    obtain ⟨p, r, rfl, hstart, -⟩ := hwhole.spelled
    have hstop : s.stop = p.length + s.name.length := by rw [hwhole.stop, hstart]
    -- later calls leave the text up to the end of this name alone
    have hbeyond : ∀ i ∈ spans.map Span.start, p.length + s.name.length ≤ i := by
      intro i hi
      obtain ⟨x, hx, rfl⟩ := List.mem_map.mp hi
      have hlt := hafter x hx
      omega
    have hfront : ∀ i ∈ spans.map Span.start, 0 + p.length ≤ i := by
      intro i hi
      have hle := hbeyond i hi
      omega
    let rest := Text.putBefore (spans.map Span.start) (module ++ ['.']) (p.length + s.name.length) r
    have hold : Text.putBefore (spans.map Span.start) (module ++ ['.']) 0 (p ++ (s.name ++ r)) =
        p ++ (s.name ++ rest) := by
      rw [Text.putBefore_beyond hfront, Nat.zero_add, Text.putBefore_beyond hbeyond]
    have hnew : Text.putBefore (p.length :: spans.map Span.start) (module ++ ['.']) 0
        (p ++ (s.name ++ r)) = p ++ (module ++ ['.'] ++ (s.name ++ rest)) := by
      rw [Text.putBefore_beyond (List.forall_mem_cons.mpr ⟨by omega, hfront⟩), Nat.zero_add,
        Text.putBefore_first hwhole.ne hbeyond]
    rw [List.foldr_cons, ih hrest fun x hx => hw x (List.mem_cons_of_mem s hx), List.map_cons, hstop,
      hstart, hold, hnew, Text.splice_middle]
    simp [qualified]

theorem convertLine_of_other (hn : ∀ n ∈ names, IsName n) {l : Text} (hk : LineKind.of l = .other) :
    convertLine module names l =
      Text.putBefore (CallSite.starts names l) (module ++ ['.']) 0 l := by
  have hput := foldr_put_lineSplices module names l
  simp only [lineSplices, hk, List.foldr_map, Splice.put, Int.toNat_natCast] at hput
  rw [← hput, foldr_splice_eq_putBefore module (CallSite.find_pairwise names l)]
  · rfl
  · intro s hs
    exact (CallSite.isCall_of_mem_find hs).wholeAt hn

theorem mem_foldr_put {ss : List Splice} {t : Text} {c : Char} (h : c ∈ ss.foldr Splice.put t) :
    c ∈ t ∨ ∃ s ∈ ss, c ∈ s.text := by
  induction ss with
  | nil => exact Or.inl h
  | cons s ss ih =>
    have hparts : (c ∈ ss.foldr Splice.put t) ∨ c ∈ s.text := by
      simp only [List.foldr_cons, Splice.put, Text.splice, List.mem_append] at h
      rcases h with (h | h) | h
      · exact Or.inl (List.mem_of_mem_take h)
      · exact Or.inr h
      · exact Or.inl (List.mem_of_mem_drop h)
    rcases hparts with h | h
    · rcases ih h with h | ⟨x, hx, hc⟩
      · exact Or.inl h
      · exact Or.inr ⟨x, List.mem_cons_of_mem s hx, hc⟩
    · exact Or.inr ⟨s, List.mem_cons_self, h⟩

/-- A line stays one line. -/
theorem feed_not_mem_convertLine (hm : IsName module) (hn : ∀ n ∈ names, IsName n) {l : Text}
    (hl : '\n' ∉ l) : '\n' ∉ convertLine module names l := by
  have hfield : ∀ n, IsName n → '\n' ∉ qualified module n := by
    intro n hname
    simp [qualified, hm.not_mem (c := '\n') (by decide), hname.not_mem (c := '\n') (by decide)]
  rw [← foldr_put_lineSplices]
  intro h
  rcases mem_foldr_put h with h | ⟨s, hs, hc⟩
  · exact hl h
  · unfold lineSplices at hs
    split at hs
    case h_1 span hk =>
      obtain rfl := List.mem_singleton.mp hs
      have hfound : moduleName? l = some span.name := by
        rw [moduleName?, LineKind.of_eq_statement hk]
        rfl
      have hname := isName_of_moduleName? hfound
      simp [tableText, hname.not_mem (c := '\n') (by decide)] at hc
    case h_2 span hk =>
      obtain rfl := List.mem_singleton.mp hs
      have hwhole := Definition.wholeAt_of_read? (LineKind.of_eq_definition hk)
      exact hfield span.name ⟨hwhole.ne, hwhole.word⟩ hc
    case h_3 =>
      obtain ⟨span, hspan, rfl⟩ := List.mem_map.mp hs
      exact hfield span.name (hn span.name (CallSite.isCall_of_mem_find hspan).1) hc

/-- The statement that returns the table has a line of its own. -/
theorem lines_withReturn (hm : IsName module) {last : Text} (hlast : '\n' ∉ last) :
    Text.lines (withReturn module last) =
      if last.all Text.isBlank then [[], "return ".toList ++ module ++ [';'], last]
      else [last, [], "return ".toList ++ module ++ [';'], []] := by
  have hstatement : '\n' ∉ "return ".toList ++ module ++ [';'] := by
    simp [hm.not_mem (c := '\n') (by decide)]
  unfold withReturn
  split
  case isTrue =>
    have hsplit : "\nreturn ".toList ++ module ++ ";\n".toList ++ last =
        [] ++ '\n' :: (("return ".toList ++ module ++ [';']) ++ '\n' :: last) := by
      simp
    rw [hsplit, Text.lines_feed (by simp), Text.lines_feed hstatement, Text.lines_of_not_mem hlast]
  case isFalse =>
    have hsplit : last ++ "\n\nreturn ".toList ++ module ++ ";\n".toList =
        last ++ '\n' :: ([] ++ '\n' :: (("return ".toList ++ module ++ [';']) ++ '\n' :: [])) := by
      simp
    rw [hsplit, Text.lines_feed hlast, Text.lines_feed (by simp), Text.lines_feed hstatement]
    rfl

/-- The number that a line has after the conversion. A last line of white space comes after the statement
that returns the table and the empty line before it; all other lines keep their numbers. -/
def numberAfter (ls : List Text) (line : Nat) : Nat :=
  if line + 1 = ls.length ∧ (ls.getLastD []).all Text.isBlank then line + 2 else line

theorem getElem?_lines_lineByLine (hm : IsName module) {source l : Text} {line : Nat}
    (hl : (Text.lines source)[line]? = some l) :
    (Text.lines (lineByLine module source))[numberAfter (Text.lines source) line]? =
      some (convertLine module (topLevelNames (Text.lines source)) l) := by
  obtain ⟨ls, last, hlines⟩ := Text.exists_lines_eq_concat source
  have hn : ∀ n ∈ topLevelNames (ls ++ [last]), IsName n := fun n h => ne_nil_of_mem_topLevelNames h
  have hfeed : ∀ m ∈ ls ++ [last], '\n' ∉ convertLine module (topLevelNames (ls ++ [last])) m := by
    intro m hmem
    exact feed_not_mem_convertLine hm hn (Text.not_mem_lines (t := source) (by rw [hlines]; exact hmem))
  have hfront : ∀ m ∈ ls.map (convertLine module (topLevelNames (ls ++ [last]))), '\n' ∉ m := by
    intro m hmem
    obtain ⟨x, hx, rfl⟩ := List.mem_map.mp hmem
    exact hfeed x (List.mem_append_left [last] hx)
  rw [lineByLine_of_lines module hlines, Text.lines_lead_append hfront,
    lines_withReturn hm (hfeed last (by simp)), hlines]
  rw [hlines] at hl
  by_cases hlt : line < ls.length
  · have hnumber : numberAfter (ls ++ [last]) line = line := by
      rw [numberAfter, if_neg]
      rintro ⟨heq, -⟩
      rw [List.length_append, List.length_singleton] at heq
      omega
    rw [List.getElem?_append_left hlt] at hl
    rw [hnumber, List.getElem?_append_left (by rwa [List.length_map]), List.getElem?_map, hl]
    rfl
  · -- only the last line is left
    obtain ⟨hline, rfl⟩ : line = ls.length ∧ last = l := by
      have hle := (List.getElem?_eq_some_iff.mp hl).1
      rw [List.length_append, List.length_singleton] at hle
      obtain rfl : line = ls.length := by omega
      exact ⟨rfl, by simpa using hl⟩
    subst hline
    have hblank : (convertLine module (topLevelNames (ls ++ [last])) last).all Text.isBlank = true ↔
        last.all Text.isBlank = true := by
      rw [all_isBlank_iff, all_isBlank_iff, strip_convertLine fun n h => (hn n h).1]
    have hnumber : numberAfter (ls ++ [last]) ls.length =
        if last.all Text.isBlank then ls.length + 2 else ls.length := by
      simp [numberAfter]
    rw [hnumber, List.getElem?_append_right (by rw [List.length_map]; split <;> omega), List.length_map]
    by_cases hb : last.all Text.isBlank = true
    · rw [if_pos hb, if_pos (hblank.mpr hb), Nat.add_sub_cancel_left]
      rfl
    · rw [if_neg hb, if_neg (hblank.not.mpr hb), Nat.sub_self]
      rfl

/-- Whether an edit replaces something that starts on a line. -/
def replacesOn (line : Nat) (e : Edit) : Bool :=
  e.range.start.line = line && !e.range.isEmpty

theorem filter_replacesOn_onLine (module : Text) (hn : ∀ n ∈ names, n ≠ []) (l : Text) (line : Nat) :
    ((lineSplices module names l).map (Splice.onLine line)).filter (replacesOn line) =
      (lineSplices module names l).map (Splice.onLine line) := by
  rw [List.filter_eq_self]
  intro e he
  obtain ⟨s, hs, rfl⟩ := List.mem_map.mp he
  have hlt := ((lineSplices_follow module hn l).2 s hs).1
  simp [replacesOn, Splice.onLine, Range.onLine, Range.isEmpty, show s.start ≠ s.stop by omega]

theorem filter_replacesOn_of_ne {line : Nat} {es : List Edit} (h : ∀ e ∈ es, e.range.start.line ≠ line) :
    es.filter (replacesOn line) = [] := by
  rw [List.filter_eq_nil_iff]
  intro e he
  simp [replacesOn, h e he]

/-- The replacements on a line of the document are those found for it alone. -/
theorem filter_documentEdits (module : Text) (hn : ∀ n ∈ names, n ≠ []) {k line : Nat} {ls : List Text}
    {last l : Text} (hl : (ls ++ [last])[line]? = some l) :
    (documentEdits module names k ls last).filter (replacesOn (k + line)) =
      (lineSplices module names l).map (Splice.onLine (k + line)) := by
  induction ls generalizing k line with
  | nil =>
    cases line with
    | succ line => simp at hl
    | zero =>
      obtain rfl : last = l := by simpa using hl
      rw [documentEdits, lastSplices, List.map_append, List.filter_append, Nat.add_zero,
        filter_replacesOn_onLine module hn]
      simp [replacesOn, isEmpty_exportSplice]
  | cons m ls ih =>
    rw [documentEdits, List.filter_append]
    cases line with
    | zero =>
      obtain rfl : m = l := by simpa using hl
      rw [Nat.add_zero, filter_replacesOn_onLine module hn, filter_replacesOn_of_ne, List.append_nil]
      intro e he
      have hle := line_le_of_mem_documentEdits he
      omega
    | succ line =>
      have hline : (ls ++ [last])[line]? = some l := by simpa using hl
      have hrest := ih (k := k + 1) hline
      rw [show k + (line + 1) = k + 1 + line by omega, hrest, filter_replacesOn_of_ne, List.nil_append]
      intro e he
      obtain ⟨s, -, rfl⟩ := List.mem_map.mp he
      simp only [Splice.onLine, Range.onLine]
      omega

/-- A text with a module statement is converted without failure, and each of its lines that holds neither a
statement nor a top-level definition is a line of the new text with every bare call of a top-level function
qualified once: the replacements on the line are one for each whole name that is such a call, from left to
right. The new line is the old one with the module's name and a dot before these names, and no bare call of
a top-level function is found on it any more. -/
theorem calls_qualified_once (source : Text) :
    match moduleName? source with
    | none => edits source = .ok []
    | some module =>
      let ls := Text.lines source
      let names := topLevelNames ls
      ∃ es out, edits source = .ok es ∧ Edit.applyAll source es = .ok out ∧
        ∀ line l, ls[line]? = some l →
          Declaration.findStatement? l = none → Definition.findTopLevel? l = none →
          let calls := CallSite.find names l
          (∀ s, s ∈ calls ↔ CallSite.Callee names l s) ∧
          calls.Pairwise (fun a b => a.stop < b.start) ∧
          es.filter (replacesOn line) =
            calls.map (fun s => ⟨s.range line, qualified module s.name⟩) ∧
          (es.filter (replacesOn line)).length = {s | CallSite.Callee names l s}.ncard ∧
          ∃ new, (Text.lines out)[numberAfter ls line]? = some new ∧
            new = Text.putBefore (calls.map Span.start) (module ++ ['.']) 0 l ∧
            CallSite.find names new = [] := by
  cases hm : moduleName? source with
  | none => simp [edits, hm]
  | some module =>
    dsimp -zeta only
    intro ls names
    have hname := isName_of_moduleName? hm
    have hn : ∀ n ∈ names, IsName n := fun n h => ne_nil_of_mem_topLevelNames h
    obtain ⟨es, hes, hout⟩ := exists_applyAll_edits hm
    refine ⟨es, lineByLine module source, hes, hout, ?_⟩
    intro line l hl hstatement hdefinition
    have hkind : LineKind.of l = .other := by simp [LineKind.of, hstatement, hdefinition]
    have hedits : es.filter (replacesOn line) =
        (CallSite.find names l).map fun s => ⟨s.range line, qualified module s.name⟩ := by
      obtain ⟨front, last, hlines⟩ := Text.exists_lines_eq_concat source
      have hline : (front ++ [last])[line]? = some l := by rw [← hlines, hl]
      have hfilter := filter_documentEdits module (k := 0) (fun n h => (hn n h).1) hline
      have hdocument := Except.ok.inj (hes.symm.trans (edits_eq_documentEdits hm hlines))
      rw [hdocument, ← hlines]
      simpa [lineSplices, hkind, Function.comp_def, Splice.onLine, Span.range] using hfilter
    refine ⟨?_, CallSite.find_pairwise names l, hedits, ?_, ?_⟩
    · intro s
      rw [CallSite.mem_find_iff hn, CallSite.isCall_iff_callee hn]
    · rw [hedits, List.length_map, CallSite.ncard_callee hn]
    · refine ⟨_, getElem?_lines_lineByLine hname hl, convertLine_of_other hn hkind, ?_⟩
      rw [convertLine_of_other hn hkind]
      exact CallSite.find_putBefore_eq_nil hn hname.2 l

/-- A call within a call of the same function, with a call of a field around it. -/
def nestedCalls : Text :=
  "module('M');\nfunction f()\nend\nf(a.f(f(1)))".toList

theorem nestedCalls_qualified :
    ∃ es out, edits nestedCalls = .ok es ∧ Edit.applyAll nestedCalls es = .ok out ∧
      (es.filter (replacesOn 3)).length = 2 ∧
      (Text.lines out)[3]? = some "M.f(a.f(M.f(1)))".toList := by
  have hmodule : moduleName? nestedCalls = some ['M'] := by decide +kernel
  have hconverted := calls_qualified_once nestedCalls
  rw [hmodule] at hconverted
  obtain ⟨es, out, hes, hout, hline⟩ := hconverted
  obtain ⟨-, -, hedits, -, new, hnew, htext, -⟩ :=
    hline 3 "f(a.f(f(1)))".toList (by decide +kernel) (by decide +kernel) (by decide +kernel)
  have hcalls : CallSite.find (topLevelNames (Text.lines nestedCalls)) "f(a.f(f(1)))".toList =
      [⟨['f'], 0, 1⟩, ⟨['f'], 6, 7⟩] := by
    decide +kernel
  have hnumber : numberAfter (Text.lines nestedCalls) 3 = 3 := by decide +kernel
  rw [hcalls] at hedits htext
  rw [hnumber, htext] at hnew
  exact ⟨es, out, hes, hout, by rw [hedits]; rfl, hnew⟩

end Conversion

end LuaIndex
