import LuaIndex.Proofs.Source.Patterns

namespace LuaIndex.CallSite

/-- The call to take from a column on: no call starts between the two, and none at its place has a longer
name. -/
structure IsNext (names : List Text) (line : Text) (column : Nat) (s : Span) : Prop where
  call : IsCall names line s
  beyond : column ≤ s.start
  leftmost : ∀ s', IsCall names line s' → column ≤ s'.start → s.start ≤ s'.start
  longest : ∀ s', IsCall names line s' → s'.start = s.start → s'.name.length ≤ s.name.length

/-- The calls to take from a column on, each after the parenthesis of the one before. -/
inductive Taken (names : List Text) (line : Text) : Nat → List Span → Prop
  | none {column : Nat} (h : ∀ s, IsCall names line s → s.start < column) : Taken names line column []
  | cons {column : Nat} {s : Span} {later : List Span} (h : IsNext names line column s)
      (hlater : Taken names line (s.stop + 1) later) : Taken names line column (s :: later)

variable {names names' : List Text} {line : Text} {column : Nat} {s s' : Span}

theorem IsCall.congr (h : IsCall names line s) (hsame : ∀ n, n ∈ names ↔ n ∈ names') :
    IsCall names' line s :=
  ⟨(hsame s.name).mp h.1, h.2⟩

theorem IsNext.congr (h : IsNext names line column s) (hsame : ∀ n, n ∈ names ↔ n ∈ names') :
    IsNext names' line column s := by
  have hback : ∀ s', IsCall names' line s' → IsCall names line s' :=
    fun s' h' => h'.congr fun n => (hsame n).symm
  exact ⟨h.call.congr hsame, h.beyond, fun s' h' => h.leftmost s' (hback s' h'),
    fun s' h' => h.longest s' (hback s' h')⟩

theorem Taken.congr {spans : List Span} (h : Taken names line column spans)
    (hsame : ∀ n, n ∈ names ↔ n ∈ names') : Taken names' line column spans := by
  induction h with
  | none hnone => exact .none fun s hs => hnone s (hs.congr fun n => (hsame n).symm)
  | cons hnext _ ih => exact .cons (hnext.congr hsame) ih

/-- Calls at one place with names of one length are the same. -/
theorem IsCall.eq_of_start_eq (h : IsCall names line s) (h' : IsCall names line s')
    (hstart : s.start = s'.start) (hlength : s.name.length = s'.name.length) : s = s' := by
  obtain ⟨-, hstop, p, r, rfl, hp, -⟩ := h
  obtain ⟨-, hstop', p', r', hsame, hp', -⟩ := h'
  have htail := (List.append_inj hsame (by omega)).2
  have hname : s.name = s'.name := (List.append_inj htail hlength).1
  cases s
  cases s'
  simp only at hstart hstop hstop' hname
  rw [hstop, hstop', hstart, hname]

theorem IsNext.unique (h : IsNext names line column s) (h' : IsNext names line column s') : s = s' := by
  have hstart : s.start = s'.start :=
    Nat.le_antisymm (h.leftmost s' h'.call h'.beyond) (h'.leftmost s h.call h.beyond)
  have hlength : s.name.length = s'.name.length :=
    Nat.le_antisymm (h'.longest s h.call hstart) (h.longest s' h'.call hstart.symm)
  exact h.call.eq_of_start_eq h'.call hstart hlength

theorem Taken.unique {spans spans' : List Span} (h : Taken names line column spans)
    (h' : Taken names line column spans') : spans = spans' := by
  induction h generalizing spans' with
  | none hnone =>
    cases h' with
    | none => rfl
    | cons hnext _ =>
      have hbefore := hnone _ hnext.call
      have hbeyond := hnext.beyond
      omega
  | cons hnext _ ih =>
    cases h' with
    | none hnone =>
      have hbefore := hnone _ hnext.call
      have hbeyond := hnext.beyond
      omega
    | cons hnext' hlater' =>
      obtain rfl := hnext.unique hnext'
      rw [ih hlater']

/-- Where no call starts, the search goes on one column further. -/
theorem Taken.of_no_call {spans : List Span} (h : Taken names line (column + 1) spans)
    (hno : ∀ s, IsCall names line s → s.start ≠ column) : Taken names line column spans := by
  cases h with
  | none hnone =>
    refine .none fun s hs => ?_
    have hbefore := hnone s hs
    have hother := hno s hs
    omega
  | cons hnext hlater =>
    refine .cons ⟨hnext.call, ?_, ?_, hnext.longest⟩ hlater
    · have hbeyond := hnext.beyond
      omega
    · intro s' hs' hbeyond
      have hother := hno s' hs'
      exact hnext.leftmost s' hs' (by omega)

theorem longestFirst_pairwise (names : List Text) :
    (longestFirst names).Pairwise fun a b => b.length ≤ a.length := by
  have hsorted : (longestFirst names).Pairwise fun a b => decide (b.length ≤ a.length) = true := by
    apply List.pairwise_mergeSort
    · intro a b c hab hbc
      simp only [decide_eq_true_eq] at hab hbc ⊢
      omega
    · intro a b
      simp only [Bool.or_eq_true, decide_eq_true_eq]
      omega
  exact hsorted.imp fun h => of_decide_eq_true h

/-- With the longest names first, what is read is the longest that is called. -/
theorem length_le_of_read? (hsorted : names.Pairwise fun a b => b.length ≤ a.length) {t n : Text}
    (h : read? names t = some n) {n' r : Text} (hmem : n' ∈ names) (ht : t = n' ++ '(' :: r) :
    n'.length ≤ n.length := by
  obtain ⟨-, earlier, later, rfl, hearlier⟩ := List.find?_eq_some_iff_append.mp h
  have hcalled : Text.startsWith t (n' ++ ['(']) = true := by
    rw [ht]
    exact startsWith_call n' r
  rcases List.mem_append.mp hmem with hn | hn
  · have hnot := hearlier n' hn
    rw [hcalled] at hnot
    cases hnot
  · rcases List.mem_cons.mp hn with rfl | hn
    · exact Nat.le_refl _
    · exact List.rel_of_pairwise_cons (List.pairwise_append.mp hsorted).2.1 hn

/-- What stands in a line from a column on, for a call that starts there. -/
theorem IsCall.exists_of_start {p t : Text} (h : IsCall names (p ++ t) s) (hstart : s.start = p.length) :
    admits p.getLast? = true ∧ ∃ r, t = s.name ++ '(' :: r := by
  obtain ⟨-, -, q, r, hsplit, hq, hadmits⟩ := h
  obtain ⟨rfl, htail⟩ := List.append_inj hsplit (by omega)
  exact ⟨hadmits, r, htail⟩

/-- The search takes the calls that are to be taken, whatever order the names of one length are in. -/
theorem taken_findFrom (hsorted : names.Pairwise fun a b => b.length ≤ a.length) (p t : Text) (skip : Nat) :
    Taken names (p ++ t) (p.length + skip) (findFrom names skip p.getLast? p.length t) := by
  induction t generalizing p skip with
  | nil =>
    refine .none fun s hs => ?_
    have hbounds := hs.bounds
    have hstop := hs.2.1
    rw [List.append_nil] at hbounds
    omega
  | cons c rest ih =>
    have hlast : (p ++ [c]).getLast? = some c := List.getLast?_concat
    have hlen : (p ++ [c]).length = p.length + 1 := by simp
    have happ : (p ++ [c]) ++ rest = p ++ c :: rest := by simp
    have hrest : ∀ k, Taken names (p ++ c :: rest) (p.length + 1 + k)
        (findFrom names k (some c) (p.length + 1) rest) := by
      intro k
      have htaken := ih (p ++ [c]) k
      rw [hlast, hlen, happ] at htaken
      exact htaken
    cases skip with
    | succ n =>
      have htaken := hrest n
      rw [findFrom]
      rwa [show p.length + (n + 1) = p.length + 1 + n by omega]
    | zero =>
      rw [findFrom]
      split
      case h_1 n hread =>
        split at hread
        case isFalse => cases hread
        case isTrue hadmits =>
          obtain ⟨hmem, r, hr⟩ := read?_eq_some hread
          refine .cons ⟨⟨hmem, rfl, p, r, by rw [hr], rfl, hadmits⟩, Nat.le_refl _, ?_, ?_⟩ ?_
          · intro s' _ hbeyond
            exact hbeyond
          · intro s' hs' hstart
            obtain ⟨-, r', ht⟩ := hs'.exists_of_start hstart
            exact length_le_of_read? hsorted hread hs'.1 ht
          · have htaken := hrest n.length
            rwa [show p.length + 1 + n.length = p.length + n.length + 1 by omega] at htaken
      case h_2 hread =>
        refine Taken.of_no_call (hrest 0) fun s hs hstart => ?_
        obtain ⟨hadmits, r, ht⟩ := hs.exists_of_start hstart
        rw [if_pos hadmits] at hread
        have hnot := List.find?_eq_none.mp hread s.name hs.1
        rw [ht] at hnot
        exact hnot (startsWith_call s.name r)

theorem taken_iff (hsorted : names.Pairwise fun a b => b.length ≤ a.length) {spans : List Span} :
    Taken names line 0 spans ↔ spans = findFrom names 0 none 0 line := by
  have htaken : Taken names line 0 (findFrom names 0 none 0 line) := taken_findFrom hsorted [] line 0
  constructor
  · intro h
    exact h.unique htaken
  · rintro rfl
    exact htaken

/-- A search for names, whatever texts they are, finds exactly the calls to take, which stand apart from left
to right and each read as their name. It finds the same for every list of the same names, and also if names
of one length are tried in another order. -/
theorem find?_leftmost_longest (names : List Text) (line : Text) (hne : names ≠ []) :
    ∃ spans, find? names line = some spans ∧
      (∀ other, Taken names line 0 other ↔ other = spans) ∧
      (∀ names', (∀ n, n ∈ names' ↔ n ∈ names) → find? names' line = some spans) ∧
      (∀ order, (∀ n, n ∈ order ↔ n ∈ names) → (order.Pairwise fun a b => b.length ≤ a.length) →
        findFrom order 0 none 0 line = spans) ∧
      (spans.Pairwise fun a b => a.stop < b.start) ∧
      ∀ s ∈ spans, s.start ≤ s.stop ∧ s.stop < line.length ∧ Text.cut line s.start s.stop = s.name := by
  have hmem : ∀ n, n ∈ longestFirst names ↔ n ∈ names := fun n => mem_longestFirst
  have hsame : ∀ order : List Text, (∀ n, n ∈ order ↔ n ∈ names) →
      (order.Pairwise fun a b => b.length ≤ a.length) →
      findFrom order 0 none 0 line = find names line := by
    intro order horder hsorted
    have htaken := (taken_iff hsorted).mpr (rfl : findFrom order 0 none 0 line = _)
    have hnames : ∀ n, n ∈ order ↔ n ∈ longestFirst names := fun n => (horder n).trans (hmem n).symm
    exact (taken_iff (longestFirst_pairwise names)).mp (htaken.congr hnames)
  refine ⟨find names line, ?_, ?_, ?_, hsame, find_pairwise names line, ?_⟩
  · rw [find?, List.isEmpty_eq_false_iff.mpr hne]
    rfl
  · intro other
    rw [find, ← taken_iff (longestFirst_pairwise names)]
    exact ⟨fun h => h.congr fun n => (hmem n).symm, fun h => h.congr hmem⟩
  · intro names' hnames
    have hne' : names' ≠ [] := by
      rintro rfl
      obtain ⟨n, rest, rfl⟩ := List.exists_cons_of_ne_nil hne
      exact List.not_mem_nil ((hnames n).mpr List.mem_cons_self)
    rw [find?, List.isEmpty_eq_false_iff.mpr hne', find]
    exact congrArg some (hsame (longestFirst names')
      (fun n => mem_longestFirst.trans (hnames n)) (longestFirst_pairwise names'))
  · intro s hs
    have hcall := isCall_of_mem_find hs
    have hbounds := hcall.bounds
    obtain ⟨-, hstop, p, r, rfl, hstart, -⟩ := hcall
    refine ⟨by omega, hbounds.1, ?_⟩
    rw [hstop, hstart]
    exact Text.cut_middle p s.name ('(' :: r)

/-- Names of which one begins another, one has a dot, one a parenthesis and one no character, and one comes
twice. -/
def tangledNames : List Text :=
  ["foo".toList, [], "foo(".toList, "o.f".toList, "foo".toList]

/-- Each takes what it can: the longer name first, the dotted one where it starts, and the empty one before a
parenthesis on its own. -/
theorem tangledNames_taken :
    tangledNames ≠ [] ∧
      find? tangledNames "foo((o.f(foo( (".toList =
        some [⟨"foo(".toList, 0, 4⟩, ⟨"o.f".toList, 5, 8⟩, ⟨"foo".toList, 9, 12⟩, ⟨[], 14, 14⟩] ∧
      Taken tangledNames "foo((o.f(foo( (".toList 0
        [⟨"foo(".toList, 0, 4⟩, ⟨"o.f".toList, 5, 8⟩, ⟨"foo".toList, 9, 12⟩, ⟨[], 14, 14⟩] := by
  have hne : tangledNames ≠ [] := by decide
  obtain ⟨spans, hfind, htaken, -, horder, -⟩ :=
    find?_leftmost_longest tangledNames "foo((o.f(foo( (".toList hne
  have hmem : ∀ n, n ∈ ["foo(".toList, "o.f".toList, "foo".toList, []] ↔ n ∈ tangledNames := by
    intro n
    simp only [tangledNames, List.mem_cons, List.not_mem_nil, or_false]
    grind
  have hspans := horder ["foo(".toList, "o.f".toList, "foo".toList, []] hmem (by decide)
  have hfound : findFrom ["foo(".toList, "o.f".toList, "foo".toList, []] 0 none 0
      "foo((o.f(foo( (".toList =
      [⟨"foo(".toList, 0, 4⟩, ⟨"o.f".toList, 5, 8⟩, ⟨"foo".toList, 9, 12⟩, ⟨[], 14, 14⟩] := by
    decide +kernel
  rw [hfound] at hspans
  rw [← hspans] at hfind htaken
  exact ⟨hne, hfind, (htaken _).mpr rfl⟩

end LuaIndex.CallSite
