import LuaIndex.Proofs.Source.Patterns

namespace LuaIndex

namespace Text

/-- A name stands whole at a span: no further character of a name is right before it or after it. -/
structure WholeAt (t : Text) (s : Span) : Prop where
  ne : s.name ≠ []
  word : ∀ c ∈ s.name, isWord c = true
  stop : s.stop = s.start + s.name.length
  spelled : ∃ p r, t = p ++ (s.name ++ r) ∧ s.start = p.length ∧
    (∀ c, p.getLast? = some c → isWord c = false) ∧ ∀ c, r.head? = some c → isWord c = false

theorem WholeAt.length_pos {t : Text} {s : Span} (h : WholeAt t s) : 0 < s.name.length :=
  List.length_pos_iff.mpr h.ne

/-- Inside of a whole name there are only characters of a name. -/
theorem WholeAt.isWord_getElem {t : Text} {s : Span} (h : WholeAt t s) {i : Nat} {c : Char}
    (hlow : s.start ≤ i) (hhigh : i < s.stop) (hc : t[i]? = some c) : isWord c = true := by
  obtain ⟨p, r, rfl, hstart, -⟩ := h.spelled
  have hstop := h.stop
  rw [List.getElem?_append_right (by omega), List.getElem?_append_left (by omega)] at hc
  exact h.word c (List.mem_of_getElem? hc)

theorem WholeAt.not_isWord_before {t : Text} {s : Span} (h : WholeAt t s) {i : Nat} {c : Char}
    (hi : i + 1 = s.start) (hc : t[i]? = some c) : isWord c = false := by
  obtain ⟨p, r, rfl, hstart, hbefore, -⟩ := h.spelled
  apply hbefore c
  rw [List.getElem?_append_left (by omega)] at hc
  rw [List.getLast?_eq_getElem?, show p.length - 1 = i by omega]
  exact hc

/-- A whole name does not start inside of another. -/
theorem WholeAt.start_le {t : Text} {s s' : Span} (h : WholeAt t s) (h' : WholeAt t s')
    (hmeet : s'.start < s.stop) : s'.start ≤ s.start := by
  by_contra hlt
  have hlt : s.start < s'.start := by omega
  obtain ⟨p, r, rfl, hstart, -⟩ := h'.spelled
  have hpos := h'.length_pos
  have hin : s'.start - 1 < (p ++ (s'.name ++ r)).length := by
    simp only [List.length_append]
    omega
  have hc := List.getElem?_eq_getElem hin
  have hword := h.isWord_getElem (by omega) (by omega) hc
  have hnot := h'.not_isWord_before (by omega) hc
  rw [hword] at hnot
  cases hnot

/-- Whole names that share a character are the same. -/
theorem WholeAt.eq_of_meet {t : Text} {s s' : Span} (h : WholeAt t s) (h' : WholeAt t s')
    (hlow : s'.start < s.stop) (hhigh : s.start < s'.stop) : s = s' := by
  have hstart : s.start = s'.start := Nat.le_antisymm (h'.start_le h hhigh) (h.start_le h' hlow)
  obtain ⟨p, r, rfl, hp, -, hrest⟩ := h.spelled
  obtain ⟨p', r', hsame, hp', -, hrest'⟩ := h'.spelled
  have htail := (List.append_inj hsame (by omega)).2
  have hname : s.name = s'.name := by
    calc s.name = (s.name ++ r).takeWhile isWord := (takeWhile_append_of_stop h.word hrest).symm
      _ = (s'.name ++ r').takeWhile isWord := by rw [htail]
      _ = s'.name := takeWhile_append_of_stop h'.word hrest'
  have hstop : s.stop = s'.stop := by rw [h.stop, h'.stop, hstart, hname]
  cases s
  cases s'
  simp only at hname hstart hstop
  rw [hname, hstart, hstop]

end Text

namespace CallSite

theorem stops_paren (r : Text) : ∀ c, ('(' :: r).head? = some c → Text.isWord c = false := by
  intro c hc
  obtain rfl : '(' = c := by simpa using hc
  decide

/-- A bare call of a name of word characters is a whole name before a parenthesis. -/
theorem IsCall.wholeAt {names : List Text} (hn : ∀ n ∈ names, n ≠ [] ∧ ∀ c ∈ n, Text.isWord c = true)
    {line : Text} {s : Span} (h : IsCall names line s) : Text.WholeAt line s := by
  obtain ⟨hmem, hstop, p, r, rfl, hstart, hadmits⟩ := h
  obtain ⟨hne, hword⟩ := hn s.name hmem
  refine ⟨hne, hword, hstop, p, '(' :: r, rfl, hstart, ?_, stops_paren r⟩
  intro c hc
  rw [hc] at hadmits
  simp only [admits, Bool.not_eq_true', Bool.or_eq_false_iff] at hadmits
  exact hadmits.1.1

theorem read?_call {names : List Text} (hn : ∀ n ∈ names, n ≠ [] ∧ ∀ c ∈ n, Text.isWord c = true)
    {w r : Text} (hw : w ∈ names) : read? names (w ++ '(' :: r) = some w := by
  cases hr : read? names (w ++ '(' :: r) with
  | none =>
    have hno := List.find?_eq_none.mp hr w hw
    exact absurd (startsWith_call w r) hno
  | some n =>
    obtain ⟨hmem, r', hsplit⟩ := read?_eq_some hr
    have hname := Text.takeWhile_append_of_stop (hn w hw).2 (stops_paren r)
    rw [hsplit, Text.takeWhile_append_of_stop (hn n hmem).2 (stops_paren r')] at hname
    rw [hname]

/-- The search reaches every call that does not start in what it skips. -/
theorem mem_findFrom {names : List Text} (hn : ∀ n ∈ names, n ≠ [] ∧ ∀ c ∈ n, Text.isWord c = true)
    {p t : Text} {skip : Nat} {s : Span} (hs : IsCall names (p ++ t) s)
    (hstart : p.length + skip ≤ s.start) : s ∈ findFrom names skip p.getLast? p.length t := by
  induction t generalizing p skip with
  | nil =>
    have hbounds := hs.bounds
    have hstop := hs.2.1
    simp only [List.append_nil] at hbounds
    omega
  | cons c rest ih =>
    have hlast : (p ++ [c]).getLast? = some c := List.getLast?_concat
    have hlen : (p ++ [c]).length = p.length + 1 := by simp
    have happ : (p ++ [c]) ++ rest = p ++ c :: rest := by simp
    have hnext : ∀ k, p.length + 1 + k ≤ s.start →
        s ∈ findFrom names k (some c) (p.length + 1) rest := by
      intro k hk
      have hrest : s ∈ findFrom names k (p ++ [c]).getLast? (p ++ [c]).length rest :=
        ih (by rw [happ]; exact hs) (by omega)
      rw [hlast, hlen] at hrest
      exact hrest
    cases skip with
    | succ n =>
      simp only [findFrom]
      exact hnext n (by omega)
    | zero =>
      simp only [findFrom]
      by_cases hhere : s.start = p.length
      · -- the call starts here, so it is the one that is read here
        obtain ⟨hmem, hstop, q, r, hsplit, hq, hadmits⟩ := hs
        obtain ⟨rfl, htail⟩ := List.append_inj hsplit (by omega)
        rw [if_pos hadmits, htail, read?_call hn hmem]
        obtain ⟨name, start, stop⟩ := s
        dsimp only at hstop hhere
        subst hstop hhere
        exact List.mem_cons_self
      · split
        case h_1 n hfound =>
          split at hfound
          case isFalse => cases hfound
          case isTrue hadmits =>
            obtain ⟨hmem, r, hr⟩ := read?_eq_some hfound
            have hcall : IsCall names (p ++ c :: rest) ⟨n, p.length, p.length + n.length⟩ :=
              ⟨hmem, rfl, p, r, by rw [hr], rfl, hadmits⟩
            have hbeyond : p.length + n.length ≤ s.start := by
              by_contra hlt
              have hsame := (hcall.wholeAt hn).eq_of_meet (hs.wholeAt hn)
                (show s.start < p.length + n.length by omega)
                (show p.length < s.stop by have hstop := hs.2.1; omega)
              exact hhere (congrArg Span.start hsame).symm
            -- a name is no parenthesis, so the call starts after that of the call found here
            have hparen : s.start ≠ p.length + n.length := by
              intro he
              have hat : (p ++ c :: rest)[p.length + n.length]? = some '(' := by
                rw [hr]
                simp
              have hword := (hs.wholeAt hn).isWord_getElem (Nat.le_of_eq he)
                (by have hpos := (hs.wholeAt hn).length_pos; have hstop := hs.2.1; omega) hat
              revert hword
              decide
            exact List.mem_cons_of_mem _ (hnext n.length (by omega))
        case h_2 => exact hnext 0 (by omega)

/-- Exactly the bare calls are found. -/
theorem mem_find_iff {names : List Text} (hn : ∀ n ∈ names, n ≠ [] ∧ ∀ c ∈ n, Text.isWord c = true)
    {line : Text} {s : Span} : s ∈ find names line ↔ IsCall names line s := by
  refine ⟨isCall_of_mem_find, fun h => ?_⟩
  have hn' : ∀ n ∈ longestFirst names, n ≠ [] ∧ ∀ c ∈ n, Text.isWord c = true :=
    fun n hmem => hn n (mem_longestFirst.mp hmem)
  obtain ⟨hmem, hrest⟩ := h
  exact mem_findFrom (p := []) hn' ⟨mem_longestFirst.mpr hmem, hrest⟩ (Nat.zero_le _)

end CallSite

end LuaIndex
