import LuaIndex.Path
import LuaIndex.Proofs.Text.Places

namespace LuaIndex.Path

theorem not_mem_parts {t p : Text} (h : p ∈ parts t) : '/' ∉ p := by
  induction t generalizing p with
  | nil =>
    obtain rfl : p = [] := by simpa [parts] using h
    simp
  | cons c t ih =>
    by_cases hc : c = '/'
    · rw [parts, if_pos hc] at h
      rcases List.mem_cons.mp h with rfl | h
      · simp
      · exact ih h
    · rw [parts, if_neg hc] at h
      cases hl : parts t with
      | nil =>
        rw [hl] at h
        obtain rfl : p = [c] := by simpa using h
        simpa using Ne.symm hc
      | cons q qs =>
        rw [hl] at h ih
        rcases List.mem_cons.mp h with rfl | h
        · have hq := ih (p := q) List.mem_cons_self
          simp [hq, Ne.symm hc]
        · exact ih (List.mem_cons_of_mem q h)

theorem parts_of_not_mem {t : Text} (h : '/' ∉ t) : parts t = [t] := by
  induction t with
  | nil => rfl
  | cons c t ih =>
    simp only [List.mem_cons, not_or] at h
    rw [parts, if_neg (Ne.symm h.1), ih h.2]

theorem parts_ne_nil (t : Text) : parts t ≠ [] := by
  cases t with
  | nil => simp [parts]
  | cons c t =>
    rw [parts]
    split
    case isTrue => simp
    case isFalse => cases parts t <;> simp

/-- A slash ends a part, wherever it stands. -/
theorem parts_append (a b : Text) : parts (a ++ '/' :: b) = parts a ++ parts b := by
  induction a with
  | nil => simp [parts]
  | cons c a ih =>
    rw [List.cons_append, parts, parts, ih]
    split
    case isTrue => rfl
    case isFalse =>
      obtain ⟨p, ps, hp⟩ := List.exists_cons_of_ne_nil (parts_ne_nil a)
      simp [hp]

theorem parts_append_slash {t : Text} (h : '/' ∉ t) (rest : Text) :
    parts (t ++ '/' :: rest) = t :: parts rest := by
  rw [parts_append, parts_of_not_mem h, List.singleton_append]

theorem parts_intercalate {names : List Text} (hne : names ≠ []) (h : ∀ n ∈ names, '/' ∉ n) :
    parts (List.intercalate ['/'] names) = names := by
  induction names with
  | nil => exact absurd rfl hne
  | cons n names ih =>
    have hn := h n List.mem_cons_self
    cases names with
    | nil => simpa using parts_of_not_mem hn
    | cons m names =>
      have hrest := ih (by simp) fun k hk => h k (List.mem_cons_of_mem n hk)
      rw [List.intercalate_cons_cons, List.append_assoc, List.singleton_append,
        parts_append_slash hn, hrest]

/-- The path is one that a text spells. -/
def Spelled (p : Path) : Prop :=
  p.slashes ≤ 2 ∧ ∀ n ∈ p.names, n ≠ [] ∧ n ≠ ['.'] ∧ '/' ∉ n

theorem spelled_ofText (t : Text) : (ofText t).Spelled := by
  constructor
  · change leadingSlashes t ≤ 2
    unfold leadingSlashes
    split <;> omega
  · intro n hn
    obtain ⟨hmem, hkeep⟩ := List.mem_filter.mp hn
    have hkeep : n ≠ [] ∧ n ≠ ['.'] := by simpa using hkeep
    exact ⟨hkeep.1, hkeep.2, not_mem_parts hmem⟩

theorem head?_intercalate {names : List Text} (h : ∀ n ∈ names, n ≠ [] ∧ n ≠ ['.'] ∧ '/' ∉ n) :
    ∀ c, (List.intercalate ['/'] names).head? = some c → decide (c = '/') = false := by
  intro c hc
  cases names with
  | nil => simp at hc
  | cons n names =>
    obtain ⟨hne, -, hslash⟩ := h n List.mem_cons_self
    obtain ⟨d, n, rfl⟩ := List.exists_cons_of_ne_nil hne
    have hd : d = c := by
      cases names with
      | nil => simpa using hc
      | cons m names => simpa [List.intercalate_cons_cons] using hc
    rw [← hd]
    simp only [List.mem_cons, not_or] at hslash
    exact decide_eq_false (Ne.symm hslash.1)

theorem filter_parts_slashes (k : Nat) (t : Text) :
    (parts (List.replicate k '/' ++ t)).filter (fun p => p ≠ [] ∧ p ≠ ['.']) =
      (parts t).filter fun p => p ≠ [] ∧ p ≠ ['.'] := by
  induction k with
  | zero => rfl
  | succ k ih =>
    rw [List.replicate_succ, List.cons_append, parts, if_pos rfl]
    simpa using ih

/-- Reading the text of a path gives the path. -/
theorem ofText_text {p : Path} (h : p.Spelled) : ofText p.text = p := by
  obtain ⟨slashes, names⟩ := p
  obtain ⟨hslashes, hnames⟩ := h
  dsimp only at hslashes hnames
  unfold text
  dsimp only
  split
  case isTrue hempty =>
    obtain ⟨rfl, rfl⟩ := hempty
    decide
  case isFalse =>
    have hrun := Text.takeWhile_append_of_stop (p := fun c => decide (c = '/'))
      (w := List.replicate slashes '/')
      (fun c hc => decide_eq_true (List.eq_of_mem_replicate hc)) (head?_intercalate hnames)
    have hlead : leadingSlashes (List.replicate slashes '/' ++ List.intercalate ['/'] names) =
        slashes := by
      rw [leadingSlashes, hrun, List.length_replicate]
      split
      case h_1 => rfl
      case h_2 => rfl
      case h_3 hzero htwo =>
        have hzero : slashes ≠ 0 := hzero
        have htwo : slashes ≠ 2 := htwo
        omega
    have hparts : (parts (List.intercalate ['/'] names)).filter
        (fun p => p ≠ [] ∧ p ≠ ['.']) = names := by
      by_cases hne : names = []
      · rw [hne]
        decide
      · rw [parts_intercalate hne fun n hn => (hnames n hn).2.2, List.filter_eq_self]
        intro n hn
        exact decide_eq_true ⟨(hnames n hn).1, (hnames n hn).2.1⟩
    simp only [ofText, hlead, filter_parts_slashes, hparts]

theorem ofText_text_ofText (t : Text) : ofText (ofText t).text = ofText t :=
  ofText_text (spelled_ofText t)

theorem exists_intercalate_concat (names : List Text) (n : Text) :
    List.intercalate ['/'] (names ++ [n]) = n ∨
      ∃ a, List.intercalate ['/'] (names ++ [n]) = a ++ '/' :: n := by
  induction names with
  | nil => exact Or.inl (by simp)
  | cons m names ih =>
    refine Or.inr ?_
    obtain ⟨k, ks, hk⟩ : ∃ k ks, names ++ [n] = k :: ks := List.exists_cons_of_ne_nil (by simp)
    rw [hk] at ih
    rw [List.cons_append, hk, List.intercalate_cons_cons]
    rcases ih with ih | ⟨a, ih⟩
    · exact ⟨m, by simp [ih]⟩
    · exact ⟨m ++ '/' :: a, by simp [ih]⟩

/-- The text of a path ends with its last name, after a slash if there is more. -/
theorem exists_text_concat (slashes : Nat) (names : List Text) (n : Text) :
    text ⟨slashes, names ++ [n]⟩ = n ∨ ∃ a, text ⟨slashes, names ++ [n]⟩ = a ++ '/' :: n := by
  have htext : text ⟨slashes, names ++ [n]⟩ =
      List.replicate slashes '/' ++ List.intercalate ['/'] (names ++ [n]) := by
    simp [text]
  rw [htext]
  rcases exists_intercalate_concat names n with h | ⟨a, h⟩
  · rw [h]
    cases slashes with
    | zero => exact Or.inl rfl
    | succ k => exact Or.inr ⟨List.replicate k '/', by simp [List.replicate_succ']⟩
  · exact Or.inr ⟨List.replicate slashes '/' ++ a, by simp [h]⟩

/-- Reading the text of a path keeps its last name, if this is one that a text can spell. -/
theorem name_ofText_text {p : Path} (hne : p.name ≠ []) (hdot : p.name ≠ ['.'])
    (hslash : '/' ∉ p.name) : (ofText p.text).name = p.name := by
  obtain ⟨slashes, names⟩ := p
  rcases List.eq_nil_or_concat names with rfl | ⟨ns, n, rfl⟩
  · exact absurd rfl hne
  · rw [List.concat_eq_append] at *
    have hname : name ⟨slashes, ns ++ [n]⟩ = n := by simp [name, List.getLastD_eq_getLast?]
    rw [hname] at hne hdot hslash
    have hlast : ∃ front, (parts (text ⟨slashes, ns ++ [n]⟩)) = front ++ [n] := by
      rcases exists_text_concat slashes ns n with h | ⟨a, h⟩
      · exact ⟨[], by rw [h, parts_of_not_mem hslash, List.nil_append]⟩
      · exact ⟨parts a, by rw [h, parts_append, parts_of_not_mem hslash]⟩
    obtain ⟨front, hfront⟩ := hlast
    have hkept : [n].filter (fun p => p ≠ [] ∧ p ≠ ['.']) = [n] := by simp [hne, hdot]
    rw [hname, name, ofText, hfront, List.filter_append, hkept]
    simp [List.getLastD_eq_getLast?]

/-- A name with a suffix ends with it. -/
theorem endsWith_of_suffix {p : Path} {s : Text} (h : p.suffix = s) (hs : s ≠ []) :
    Text.endsWith p.name s = true := by
  unfold suffix at h
  dsimp only at h
  split at h
  case isTrue => exact absurd h.symm hs
  case isFalse hlong =>
    simp only [not_or, not_le] at hlong
    have hsplit := List.takeWhile_append_dropWhile (p := fun c => decide (c ≠ '.')) (l := p.name.reverse)
    have hrest : p.name.reverse.dropWhile (fun c => decide (c ≠ '.')) ≠ [] := by
      intro hnil
      have hlen := congrArg List.length hsplit
      rw [hnil, List.append_nil, List.length_reverse] at hlen
      rw [List.length_reverse, hlen] at hlong
      omega
    obtain ⟨d, rest, hd⟩ := List.exists_cons_of_ne_nil hrest
    have hdot : d = '.' := by
      have hhead := List.head?_dropWhile_not (fun c => decide (c ≠ '.')) p.name.reverse
      rw [hd] at hhead
      simpa using hhead
    have hafter : Text.after s.reverse p.name.reverse = some rest := by
      rw [Text.after_eq_some_iff, ← h, List.reverse_cons, List.reverse_reverse, List.append_assoc]
      rw [hd, hdot] at hsplit
      exact hsplit.symm
    simp [Text.endsWith, Text.startsWith, hafter]

end LuaIndex.Path
