import LuaIndex.Source.Declaration
import LuaIndex.Source.Definition
import LuaIndex.Source.CallSite
import LuaIndex.Proofs.Text.Places
import Mathlib.Data.List.TakeWhile

namespace LuaIndex

/-- What no white space of the table is, no white space is. -/
theorem Text.eq_false_of_isBlank {p : Char → Bool}
    (hall : ∀ r ∈ blankRanges, ∀ k < r.2 + 1 - r.1, p (Char.ofNat (r.1 + k)) = false) {c : Char}
    (h : isBlank c = true) : p c = false := by
  obtain ⟨r, hr, hc⟩ := List.any_eq_true.mp h
  simp only [Bool.and_eq_true, decide_eq_true_eq] at hc
  have hno := hall r hr (c.toNat - r.1) (by omega)
  rwa [Nat.add_sub_cancel' hc.1, Char.ofNat_toNat] at hno

/-- No name has white space in it. -/
theorem Text.isWord_of_isBlank {c : Char} (h : isBlank c = true) : isWord c = false :=
  eq_false_of_isBlank (by decide +kernel) h

/-- A text that starts with a name does not start with white space. -/
theorem Text.not_isBlank_head {w : Text} (hne : w ≠ []) (hw : ∀ c ∈ w, isWord c = true) (rest : Text) :
    ∀ c, (w ++ rest).head? = some c → isBlank c = false := by
  obtain ⟨d, w, rfl⟩ := List.exists_cons_of_ne_nil hne
  intro c hc
  obtain rfl : d = c := by simpa using hc
  cases hblank : isBlank d with
  | false => rfl
  | true =>
    have hno := isWord_of_isBlank hblank
    rw [hw d List.mem_cons_self] at hno
    cases hno

namespace Declaration

/-- A declaration from its first to its last character. -/
def spelled (q : Char) (name : Text) (q' : Char) (filler : Text) : Text :=
  opening ++ q :: (name ++ q' :: (filler ++ [')']))

theorem not_isWord_of_isQuote {c : Char} (h : isQuote c = true) : ¬ Text.isWord c = true := by
  simp only [isQuote, Bool.or_eq_true, beq_iff_eq] at h
  rcases h with rfl | rfl <;> decide

/-- A text starts with a declaration exactly if it is spelled like one. -/
theorem read?_eq_some_iff {t name rest : Text} :
    read? t = some ⟨name, rest⟩ ↔
      ∃ q q' filler, isQuote q = true ∧ isQuote q' = true ∧ name ≠ [] ∧
        (∀ c ∈ name, Text.isWord c = true) ∧ (∀ c ∈ filler, isFiller c = true) ∧
        t = spelled q name q' filler ++ rest := by
  constructor
  · intro h
    unfold read? at h
    split at h
    case h_2 => cases h
    case h_1 q body ho =>
      have ht := Text.after_eq_some_iff.mp ho
      by_cases hq : isQuote q = true
      case neg => simp [hq] at h
      case pos =>
        simp only [hq, if_true] at h
        cases hb : body.dropWhile Text.isWord with
        | nil => simp [hb] at h
        | cons q' tail =>
          simp only [hb] at h
          split at h
          case isFalse => cases h
          case isTrue hq' =>
            split at h
            case h_2 => cases h
            case h_1 rest' hf =>
              obtain ⟨rfl, rfl⟩ := Declaration.mk.inj (Option.some.inj h)
              simp only [Bool.and_eq_true, Bool.not_eq_true', List.isEmpty_eq_false_iff] at hq'
              refine ⟨q, q', tail.takeWhile isFiller, hq, hq'.1, hq'.2,
                fun c hc => List.mem_takeWhile_imp hc, fun c hc => List.mem_takeWhile_imp hc, ?_⟩
              have hbody : body.takeWhile Text.isWord ++ q' :: tail = body := by
                rw [← hb]
                exact List.takeWhile_append_dropWhile
              have htail : tail.takeWhile isFiller ++ ')' :: rest' = tail := by
                rw [← hf]
                exact List.takeWhile_append_dropWhile
              rw [ht]
              simp only [spelled, List.append_assoc, List.cons_append, List.nil_append]
              rw [htail, hbody]
  · rintro ⟨q, q', filler, hq, hq', hne, hw, hf, rfl⟩
    have hafter : Text.after opening (spelled q name q' filler ++ rest) =
        some (q :: (name ++ q' :: (filler ++ ')' :: rest))) := by
      rw [Text.after_eq_some_iff]
      simp [spelled]
    have hnw : ¬ Text.isWord q' = true := not_isWord_of_isQuote hq'
    have hnf : ¬ isFiller ')' = true := by decide
    unfold read?
    rw [hafter]
    simp only [hq, if_true, List.takeWhile_append_of_pos hw, List.dropWhile_append_of_pos hw,
      List.takeWhile_cons_of_neg hnw, List.dropWhile_cons_of_neg hnw, List.append_nil, hq',
      Bool.true_and, Bool.not_eq_true', List.isEmpty_eq_false_iff.mpr hne,
      List.dropWhile_append_of_pos hf, List.dropWhile_cons_of_neg hnf]

/-- A statement is a declaration with a semicolon after it. -/
theorem readStatement?_eq_some_iff {t : Text} {span : Span} :
    readStatement? t = some span ↔
      ∃ rest, read? t = some ⟨span.name, ';' :: rest⟩ ∧ span.start = 0 ∧
        span.stop = t.length - rest.length := by
  obtain ⟨name, start, stop⟩ := span
  unfold readStatement?
  split
  case h_1 name' rest hr =>
    rw [hr]
    constructor
    · intro h
      obtain ⟨rfl, rfl, rfl⟩ := Span.mk.inj (Option.some.inj h)
      exact ⟨rest, rfl, rfl, rfl⟩
    · rintro ⟨rest', he, rfl, rfl⟩
      obtain ⟨rfl, hrest⟩ := Declaration.mk.inj (Option.some.inj he)
      obtain ⟨-, rfl⟩ := List.cons.inj hrest
      rfl
  case h_2 hno =>
    constructor
    · intro h
      cases h
    · rintro ⟨rest, he, -, -⟩
      exact absurd he (hno name rest)

/-- A statement found in a text stands at its span, and none starts before it. -/
theorem findStatement?_eq_some {t : Text} {span : Span} (h : findStatement? t = some span) :
    ∃ p r rest, t = p ++ r ∧ span.start = p.length ∧
      read? r = some ⟨span.name, ';' :: rest⟩ ∧ span.stop + rest.length = t.length ∧
      ∀ q s, t = q ++ s → q.length < p.length → readStatement? s = none := by
  obtain ⟨⟨i, found⟩, hs, rfl⟩ := Option.map_eq_some_iff.mp h
  obtain ⟨p, r, rfl, rfl, hr, hfirst⟩ := Text.search_eq_some_iff.mp hs
  obtain ⟨rest, hread, hstart, hstop⟩ := readStatement?_eq_some_iff.mp hr
  obtain ⟨q, q', filler, -, -, -, -, -, hspell⟩ := read?_eq_some_iff.mp hread
  have hlen : rest.length ≤ r.length := by
    rw [hspell]
    simp only [List.length_append, List.length_cons]
    omega
  refine ⟨p, r, rest, rfl, by simp [Span.shift, hstart], hread, ?_, hfirst⟩
  simp only [Span.shift, hstop, List.length_append]
  omega

theorem findStatement?_bounds {t : Text} {span : Span} (h : findStatement? t = some span) :
    span.start < span.stop ∧ span.stop ≤ t.length ∧ '(' ∈ t := by
  obtain ⟨p, r, rest, rfl, hstart, hread, hstop, -⟩ := findStatement?_eq_some h
  obtain ⟨q, q', filler, -, -, -, -, -, rfl⟩ := read?_eq_some_iff.mp hread
  simp only [List.length_append, List.length_cons] at hstop
  refine ⟨by omega, by simp only [List.length_append, List.length_cons]; omega, ?_⟩
  have hopen : '(' ∈ opening := by decide
  simp [spelled, hopen]

end Declaration

namespace Definition

/-- The parts of a definition at the start of a text. -/
theorem read?_eq_some {t : Text} {span : Span} (h : read? t = some span) :
    ∃ gap gap' rest, (∀ c ∈ gap, Text.isBlank c = true) ∧ gap ≠ [] ∧
      (∀ c ∈ span.name, Text.isWord c = true) ∧ span.name ≠ [] ∧
      (∀ c ∈ gap', Text.isBlank c = true) ∧
      t = keyword ++ gap ++ (span.name ++ (gap' ++ '(' :: rest)) ∧
      span.start = (keyword ++ gap).length ∧ span.stop = span.start + span.name.length := by
  unfold read? at h
  split at h
  case h_2 => cases h
  case h_1 tail ho =>
    have ht := Text.after_eq_some_iff.mp ho
    dsimp only at h
    split at h
    case isTrue => cases h
    case isFalse hne =>
      split at h
      case h_2 => cases h
      case h_1 rest hp =>
        obtain rfl := Option.some.inj h
        simp only [Bool.or_eq_true, List.isEmpty_iff, not_or] at hne
        refine ⟨tail.takeWhile Text.isBlank,
          ((tail.dropWhile Text.isBlank).dropWhile Text.isWord).takeWhile Text.isBlank, rest,
          fun c hc => List.mem_takeWhile_imp hc, hne.1, fun c hc => List.mem_takeWhile_imp hc, hne.2,
          fun c hc => List.mem_takeWhile_imp hc, ?_, by simp, rfl⟩
        have hlast : ((tail.dropWhile Text.isBlank).dropWhile Text.isWord).takeWhile Text.isBlank ++
            '(' :: rest = (tail.dropWhile Text.isBlank).dropWhile Text.isWord := by
          rw [← hp]
          exact List.takeWhile_append_dropWhile
        rw [hlast, List.takeWhile_append_dropWhile, List.append_assoc,
          List.takeWhile_append_dropWhile]
        exact ht

/-- A text starts with a definition exactly if it is spelled like one. -/
theorem read?_eq_some_iff {t : Text} {span : Span} :
    read? t = some span ↔
      ∃ gap gap' rest, (∀ c ∈ gap, Text.isBlank c = true) ∧ gap ≠ [] ∧
        (∀ c ∈ span.name, Text.isWord c = true) ∧ span.name ≠ [] ∧
        (∀ c ∈ gap', Text.isBlank c = true) ∧
        t = keyword ++ gap ++ (span.name ++ (gap' ++ '(' :: rest)) ∧
        span.start = (keyword ++ gap).length ∧ span.stop = span.start + span.name.length := by
  refine ⟨read?_eq_some, ?_⟩
  obtain ⟨name, start, stop⟩ := span
  rintro ⟨gap, gap', rest, hgap, hne, hword, hname, hgap', rfl, hstart, hstop⟩
  dsimp only at hword hname hstart hstop
  have hkeyword : Text.after keyword (keyword ++ gap ++ (name ++ (gap' ++ '(' :: rest))) =
      some (gap ++ (name ++ (gap' ++ '(' :: rest))) := by
    rw [Text.after_eq_some_iff, List.append_assoc]
  have hbody := Text.not_isBlank_head hname hword (gap' ++ '(' :: rest)
  have hafter : ∀ c, (gap' ++ '(' :: rest).head? = some c → Text.isWord c = false := by
    cases gap' with
    | nil => simp [show Text.isWord '(' = false by decide]
    | cons d gap' => simp [Text.isWord_of_isBlank (hgap' d List.mem_cons_self)]
  have hparen : ∀ c, ('(' :: rest).head? = some c → Text.isBlank c = false := by
    simp [show Text.isBlank '(' = false by decide]
  unfold read?
  rw [hkeyword]
  simp only [Text.takeWhile_append_of_stop hgap hbody, Text.dropWhile_append_of_stop hgap hbody,
    Text.takeWhile_append_of_stop hword hafter, Text.dropWhile_append_of_stop hword hafter,
    Text.dropWhile_append_of_stop hgap' hparen, List.isEmpty_eq_false_iff.mpr hne,
    List.isEmpty_eq_false_iff.mpr hname, hstop, hstart, List.length_append]
  rfl

theorem read?_bounds {t : Text} {span : Span} (h : read? t = some span) :
    span.start < span.stop ∧ span.stop ≤ t.length ∧ '(' ∈ t := by
  obtain ⟨gap, gap', rest, -, -, -, hne, -, rfl, hstart, hstop⟩ := read?_eq_some h
  have hname := List.length_pos_iff.mpr hne
  simp only [List.length_append] at hstart
  refine ⟨by omega, ?_, by simp⟩
  simp only [List.length_append, List.length_cons]
  omega

end Definition

namespace CallSite

theorem mem_longestFirst {names : List Text} {n : Text} :
    n ∈ longestFirst names ↔ n ∈ names := by
  simp [longestFirst]

theorem read?_eq_some {names : List Text} {t n : Text} (h : read? names t = some n) :
    n ∈ names ∧ ∃ r, t = n ++ '(' :: r := by
  refine ⟨List.mem_of_find?_eq_some h, ?_⟩
  have hp := List.find?_some h
  obtain ⟨r, hr⟩ := Option.isSome_iff_exists.mp hp
  have ht := Text.after_eq_some_iff.mp hr
  exact ⟨r, by simpa using ht⟩

theorem startsWith_call (n r : Text) : Text.startsWith (n ++ '(' :: r) (n ++ ['(']) = true := by
  have hafter : Text.after (n ++ ['(']) (n ++ '(' :: r) = some r :=
    Text.after_eq_some_iff.mpr (by simp)
  simp [Text.startsWith, hafter]

/-- A span of a line is a bare call of one of the names. -/
def IsCall (names : List Text) (line : Text) (s : Span) : Prop :=
  s.name ∈ names ∧ s.stop = s.start + s.name.length ∧
    ∃ p r, line = p ++ (s.name ++ '(' :: r) ∧ s.start = p.length ∧ admits p.getLast? = true

theorem IsCall.bounds {names : List Text} {line : Text} {s : Span} (h : IsCall names line s) :
    s.stop < line.length ∧ '(' ∈ line := by
  obtain ⟨-, hstop, p, r, rfl, hstart, -⟩ := h
  refine ⟨?_, by simp⟩
  simp only [List.length_append, List.length_cons]
  omega

/-- The search for calls goes from left to right, over each parenthesis of a call it found. -/
theorem findFrom_spec (names : List Text) (p t : Text) (skip : Nat) :
    (∀ s ∈ findFrom names skip p.getLast? p.length t,
      IsCall names (p ++ t) s ∧ p.length + skip ≤ s.start) ∧
    (findFrom names skip p.getLast? p.length t).Pairwise fun a b => a.stop < b.start := by
  induction t generalizing p skip with
  | nil => simp [findFrom]
  | cons c rest ih =>
    have hlast : (p ++ [c]).getLast? = some c := List.getLast?_concat
    have hlen : (p ++ [c]).length = p.length + 1 := by simp
    have happ : (p ++ [c]) ++ rest = p ++ c :: rest := by simp
    cases skip with
    | succ n =>
      have hrest := ih (p ++ [c]) n
      rw [hlast, hlen, happ] at hrest
      simp only [findFrom]
      refine ⟨?_, hrest.2⟩
      intro s hs
      have hbound := hrest.1 s hs
      exact ⟨hbound.1, by omega⟩
    | zero =>
      simp only [findFrom]
      split
      case h_1 n hn =>
        have hrest := ih (p ++ [c]) n.length
        rw [hlast, hlen, happ] at hrest
        split at hn
        case isFalse => cases hn
        case isTrue hadmits =>
          obtain ⟨hmem, r, hr⟩ := read?_eq_some hn
          refine ⟨?_, List.Pairwise.cons ?_ hrest.2⟩
          · intro s hs
            rcases List.mem_cons.mp hs with rfl | hs
            · exact ⟨⟨hmem, rfl, p, r, by rw [hr], rfl, hadmits⟩, by simp⟩
            · have hbound := hrest.1 s hs
              exact ⟨hbound.1, by omega⟩
          · intro s hs
            have hbound := (hrest.1 s hs).2
            change p.length + n.length < s.start
            omega
      case h_2 hn =>
        have hrest := ih (p ++ [c]) 0
        rw [hlast, hlen, happ] at hrest
        refine ⟨?_, hrest.2⟩
        intro s hs
        have hbound := hrest.1 s hs
        exact ⟨hbound.1, by omega⟩

theorem isCall_of_mem_find {names : List Text} {line : Text} {s : Span} (h : s ∈ find names line) :
    IsCall names line s := by
  obtain ⟨⟨hmem, hstop, hat⟩, -⟩ := (findFrom_spec (longestFirst names) [] line 0).1 s h
  exact ⟨mem_longestFirst.mp hmem, hstop, hat⟩

theorem find_pairwise (names : List Text) (line : Text) :
    (find names line).Pairwise fun a b => a.stop < b.start :=
  (findFrom_spec (longestFirst names) [] line 0).2

end CallSite

end LuaIndex
