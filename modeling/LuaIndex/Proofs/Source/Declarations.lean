import LuaIndex.Proofs.Source.Patterns

namespace LuaIndex.Declaration

/-- A declaration in a text: from where to where, its name, and whether a semicolon follows it. -/
structure Match where
  start : Nat
  stop : Nat
  name : Text
  closed : Bool
deriving DecidableEq

/-- The declaration at the start of a text that stands `offset` characters in. -/
def matchAt? (offset : Nat) (t : Text) : Option Match :=
  (read? t).map fun d =>
    ⟨offset, offset + (t.length - d.rest.length), d.name, d.rest.head? == some ';'⟩

/-- The declarations of the rest of a text, left to right. The first `skip` characters belong to the
one found before. -/
def findAllFrom (skip offset : Nat) : Text → List Match
  | [] => []
  | c :: rest =>
    match skip with
    | n + 1 => findAllFrom n (offset + 1) rest
    | 0 =>
      match matchAt? offset (c :: rest) with
      | some m => m :: findAllFrom (m.stop - offset - 1) (offset + 1) rest
      | none => findAllFrom 0 (offset + 1) rest

/-- Every declaration of a text, left to right. The search goes on after the one found last. -/
def findAll (t : Text) : List Match :=
  findAllFrom 0 0 t

/-- The declarations at each place of the rest of a text. -/
def startsFrom (offset : Nat) : Text → List Match
  | [] => []
  | c :: rest => (matchAt? offset (c :: rest)).toList ++ startsFrom (offset + 1) rest

/-- What a declaration tells apart from where it stands. -/
def Match.mark (m : Match) : Text × Bool :=
  (m.name, m.closed)

theorem opening_eq : opening = ['m', 'o', 'd', 'u', 'l', 'e', '('] := by
  decide

/-- A character between the opening and the closing parenthesis of a declaration. -/
def isInner (c : Char) : Bool :=
  isQuote c || isFiller c

theorem isWord_of_mem_module {c : Char} (h : c ∈ "module".toList) : Text.isWord c = true := by
  have hall : "module".toList.all Text.isWord = true := by decide
  exact List.all_eq_true.mp hall c h

theorem isInner_of_isWord {c : Char} (h : Text.isWord c = true) : isInner c = true := by
  simp [isInner, isFiller, h]

theorem ne_of_isInner {c x : Char} (h : isInner c = true) (hx : isInner x = false) : c ≠ x := by
  rintro rfl
  rw [hx] at h
  cases h

theorem spelled_eq {q q' : Char} {name filler : Text} (hq : isQuote q = true)
    (hq' : isQuote q' = true) (hw : ∀ c ∈ name, Text.isWord c = true)
    (hf : ∀ c ∈ filler, isFiller c = true) :
    ∃ inner, (∀ c ∈ inner, isInner c = true) ∧
      spelled q name q' filler = opening ++ (inner ++ [')']) := by
  refine ⟨q :: (name ++ q' :: filler), ?_, by simp [spelled]⟩
  intro c hc
  simp only [List.mem_cons, List.mem_append] at hc
  rcases hc with rfl | hc | rfl | hc
  · simp [isInner, hq]
  · exact isInner_of_isWord (hw c hc)
  · simp [isInner, hq']
  · simp [isInner, hf c hc]

theorem read?_eq_some {t name rest : Text} (h : read? t = some ⟨name, rest⟩) :
    ∃ inner, (∀ c ∈ inner, isInner c = true) ∧ t = opening ++ (inner ++ ')' :: rest) := by
  obtain ⟨q, q', filler, hq, hq', -, hw, hf, rfl⟩ := read?_eq_some_iff.mp h
  obtain ⟨inner, hinner, he⟩ := spelled_eq hq hq' hw hf
  exact ⟨inner, hinner, by rw [he]; simp⟩

theorem read?_append {t name rest : Text} (h : read? t = some ⟨name, rest⟩) (r : Text) :
    read? (t ++ r) = some ⟨name, rest ++ r⟩ := by
  obtain ⟨q, q', filler, hq, hq', hne, hw, hf, rfl⟩ := read?_eq_some_iff.mp h
  exact read?_eq_some_iff.mpr ⟨q, q', filler, hq, hq', hne, hw, hf, by simp⟩

/-- Before a declaration starts there is a parenthesis, and before that only letters of its first word. -/
theorem read?_eq_none {y z : Text} {x : Char} (hy : '(' ∉ y) (hx : x ∉ opening) :
    read? (y ++ x :: z) = none := by
  cases hr : read? (y ++ x :: z) with
  | none => rfl
  | some d =>
    obtain ⟨inner, -, ht⟩ := read?_eq_some hr
    have hopen : '(' ∈ opening := by decide
    rcases List.append_eq_append_iff.mp ht with ⟨a, ho, hxz⟩ | ⟨b, hyo, -⟩
    · cases a with
      | nil =>
        rw [List.append_nil] at ho
        exact absurd (ho ▸ hopen) hy
      | cons c a =>
        obtain ⟨rfl, -⟩ := List.cons.inj hxz
        exact absurd (by simp [ho]) hx
    · exact absurd (by simp [hyo, hopen]) hy

theorem eq_of_opening {u b : Text} {x : Char} (h : opening = u ++ x :: b)
    (hx : isInner x = false) : x = '(' ∧ u = "module".toList := by
  have hsplit : "module".toList ++ ['('] = u ++ x :: b := h
  rcases List.append_eq_append_iff.mp hsplit with ⟨a, rfl, ha⟩ | ⟨a, hu, ha⟩
  · cases a with
    | nil => exact ⟨(List.cons.inj ha).1.symm, by simp⟩
    | cons c a => simp at ha
  · cases a with
    | nil =>
      have hp : x :: b = ['('] := ha
      exact ⟨(List.cons.inj hp).1, by simpa using hu.symm⟩
    | cons c a =>
      obtain ⟨rfl, -⟩ := List.cons.inj ha
      have hc := isInner_of_isWord (isWord_of_mem_module (by rw [hu]; simp : x ∈ "module".toList))
      rw [hx] at hc
      cases hc

/-- No declaration that starts in `p` can run on into `q`, nor gets a semicolon there: `q` has no closing
parenthesis, or first a character that no declaration has, or a parenthesis that opens none begun in
`p`. -/
def Stops (p q : Text) : Prop :=
  q.head? ≠ some ';' ∧
    (')' ∉ q ∨ ∃ y x z, q = y ++ x :: z ∧ ')' ∉ y ∧ isInner x = false ∧ x ≠ ')' ∧
      (x = '(' → ∀ u v, p = u ++ v → v ≠ [] → v ++ y ≠ "module".toList))

theorem Stops.tail {c : Char} {p q : Text} (h : Stops (c :: p) q) : Stops p q := by
  refine ⟨h.1, h.2.imp id ?_⟩
  rintro ⟨y, x, z, hq, hy, hx, hne, hopen⟩
  exact ⟨y, x, z, hq, hy, hx, hne, fun he u v hp => hopen he (c :: u) v (by rw [hp]; rfl)⟩

/-- A declaration that starts before such a text ends before it. -/
theorem Stops.not_spelled {p q a rest inner : Text} (h : Stops p q) (hp : p ≠ []) (ha : a ≠ [])
    (hinner : ∀ c ∈ inner, isInner c = true) (hd : opening ++ (inner ++ [')']) = p ++ a) :
    q ≠ a ++ rest := by
  intro hq
  obtain ⟨a', e, rfl⟩ : ∃ a' e, a = a' ++ [e] := ⟨_, _, (List.dropLast_concat_getLast ha).symm⟩
  have hd' : (opening ++ inner) ++ [')'] = (p ++ a') ++ [e] := by simpa using hd
  obtain ⟨hbody, he⟩ := List.append_inj' hd' rfl
  obtain rfl : ')' = e := (List.cons.inj he).1
  rcases h.2 with hnone | ⟨y, x, z, hyz, hy, hx, hne, hopen⟩
  · exact hnone (by simp [hq])
  -- the closing parenthesis lies beyond `x`, so that `x` stands inside of the declaration
  have hxa : ∃ b, a' = y ++ x :: b := by
    have hsplit : (a' ++ [')']) ++ rest = y ++ x :: z := hq.symm.trans hyz
    rcases List.append_eq_append_iff.mp hsplit with ⟨b, hb, -⟩ | ⟨b, hb, hxz⟩
    · exact absurd (by simp [hb]) hy
    · rcases List.eq_nil_or_concat b with rfl | ⟨b', e', rfl⟩
      · exact absurd (by rw [List.append_nil] at hb; simp [← hb]) hy
      · rw [List.concat_eq_append, ← List.append_assoc] at hb
        obtain ⟨hab, he'⟩ := List.append_inj' hb rfl
        cases b' with
        | nil =>
          obtain rfl : ')' = e' := (List.cons.inj he').1
          exact absurd (List.cons.inj hxz).1 hne
        | cons d b' => exact ⟨b', by rw [hab, ← (List.cons.inj hxz).1]⟩
  obtain ⟨b, rfl⟩ := hxa
  have hnot : x ∉ inner := fun hmem => ne_of_isInner (hinner x hmem) hx rfl
  rw [← List.append_assoc] at hbody
  rcases List.append_eq_append_iff.mp hbody with ⟨c, hpy, hi⟩ | ⟨c, ho, hi⟩
  · exact hnot (by rw [hi]; simp)
  · cases c with
    | nil => exact hnot (by rw [← show x :: b = inner from hi]; simp)
    | cons d c =>
      obtain ⟨rfl, -⟩ := List.cons.inj hi
      obtain ⟨hpar, hmodule⟩ := eq_of_opening ho hx
      exact hopen hpar [] p rfl hp hmodule

theorem Stops.read? {p q : Text} (h : Stops p q) (hp : p ≠ []) :
    Declaration.read? (p ++ q) =
      (Declaration.read? p).map fun d => ⟨d.name, d.rest ++ q⟩ := by
  cases hr : Declaration.read? p with
  | some d => exact read?_append hr q
  | none =>
    cases hs : Declaration.read? (p ++ q) with
    | none => rfl
    | some d =>
      exfalso
      obtain ⟨q₁, q₂, filler, hq₁, hq₂, hne, hw, hf, ht⟩ := read?_eq_some_iff.mp hs
      obtain ⟨inner, hinner, he⟩ := spelled_eq hq₁ hq₂ hw hf
      have hend : ∀ b, p ≠ spelled q₁ d.name q₂ filler ++ b := by
        intro b hb
        have hsome : Declaration.read? p = some ⟨d.name, b⟩ :=
          read?_eq_some_iff.mpr ⟨q₁, q₂, filler, hq₁, hq₂, hne, hw, hf, hb⟩
        rw [hr] at hsome
        cases hsome
      rcases List.append_eq_append_iff.mp ht with ⟨a, hd, hq⟩ | ⟨b, hb, -⟩
      · by_cases ha : a = []
        · exact hend [] (by rw [hd, ha]; simp)
        · exact h.not_spelled hp ha hinner (he.symm.trans hd) hq
      · exact hend b hb

theorem Stops.matchAt? {p q : Text} (h : Stops p q) (hp : p ≠ []) (k : Nat) :
    Declaration.matchAt? k (p ++ q) = Declaration.matchAt? k p := by
  unfold Declaration.matchAt?
  rw [h.read? hp]
  cases hr : Declaration.read? p with
  | none => rfl
  | some d =>
    have hlen : p.length - d.rest.length = (p ++ q).length - (d.rest ++ q).length := by
      simp only [List.length_append]
      omega
    have hclosed : ((d.rest ++ q).head? == some ';') = (d.rest.head? == some ';') := by
      cases d.rest with
      | nil => simpa using h.1
      | cons c rest => rfl
    simp only [Option.map_some, ← hlen, hclosed]

/-- The declarations of a text are those of its two parts, if the second stops the first. -/
theorem startsFrom_append {p q : Text} (h : Stops p q) (k : Nat) :
    startsFrom k (p ++ q) = startsFrom k p ++ startsFrom (k + p.length) q := by
  induction p generalizing k with
  | nil => rfl
  | cons c p ih =>
    have hhead := h.matchAt? (by simp) k
    have hlen : k + 1 + p.length = k + (c :: p).length := by
      simp only [List.length_cons]
      omega
    rw [List.cons_append] at hhead
    simp only [List.cons_append, startsFrom]
    rw [hhead, ih h.tail, hlen, List.append_assoc]

theorem matchAt?_eq_none {t : Text} (h : read? t = none) (k : Nat) : matchAt? k t = none := by
  simp [matchAt?, h]

theorem matchAt?_spelled {q q' : Char} {name filler : Text} (hq : isQuote q = true)
    (hq' : isQuote q' = true) (hne : name ≠ []) (hw : ∀ c ∈ name, Text.isWord c = true)
    (hf : ∀ c ∈ filler, isFiller c = true) (k : Nat) (rest : Text) :
    matchAt? k (spelled q name q' filler ++ rest) =
      some ⟨k, k + (spelled q name q' filler).length, name, rest.head? == some ';'⟩ := by
  have hr : read? (spelled q name q' filler ++ rest) = some ⟨name, rest⟩ :=
    read?_eq_some_iff.mpr ⟨q, q', filler, hq, hq', hne, hw, hf, rfl⟩
  have hlen : (spelled q name q' filler ++ rest).length - rest.length =
      (spelled q name q' filler).length := by
    simp only [List.length_append]
    omega
  simp only [matchAt?, hr, Option.map_some, hlen]

theorem startsFrom_cons_of_ne {c : Char} (h : c ≠ 'm') (k : Nat) (t : Text) :
    startsFrom k (c :: t) = startsFrom (k + 1) t := by
  have hr : read? (c :: t) = none := by
    unfold read?
    rw [opening_eq, Text.after, if_neg (Ne.symm h)]
  simp only [startsFrom, matchAt?_eq_none hr, Option.toList_none, List.nil_append]

theorem startsFrom_skip {y : Text} {x : Char} (hy : '(' ∉ y) (hx : x ∉ opening) (k : Nat)
    (z : Text) : startsFrom k (y ++ x :: z) = startsFrom (k + (y.length + 1)) z := by
  induction y generalizing k with
  | nil =>
    have hr : read? (x :: z) = none := read?_eq_none hy hx
    simp only [List.nil_append, startsFrom, matchAt?_eq_none hr, Option.toList_none]
    rfl
  | cons c y ih =>
    have hr : read? (c :: y ++ x :: z) = none := read?_eq_none hy hx
    have hrest := ih (fun hmem => hy (List.mem_cons_of_mem c hmem)) (k + 1)
    rw [List.cons_append] at hr ⊢
    simp only [startsFrom, matchAt?_eq_none hr, Option.toList_none, List.nil_append, hrest]
    congr 1
    simp only [List.length_cons]
    omega

theorem startsFrom_eq_nil {t : Text} (h : '(' ∉ t) (k : Nat) : startsFrom k t = [] := by
  induction t generalizing k with
  | nil => rfl
  | cons c t ih =>
    have hr : read? (c :: t) = none := by
      cases hd : read? (c :: t) with
      | none => rfl
      | some d =>
        obtain ⟨inner, -, ht⟩ := read?_eq_some hd
        have hopen : '(' ∈ opening := by decide
        exact absurd (by rw [ht]; simp [hopen]) h
    simp only [startsFrom, matchAt?_eq_none hr, Option.toList_none, List.nil_append]
    exact ih (fun hmem => h (List.mem_cons_of_mem c hmem)) (k + 1)

theorem startsFrom_spelled {q q' : Char} {name filler : Text} (hq : isQuote q = true)
    (hq' : isQuote q' = true) (hne : name ≠ []) (hw : ∀ c ∈ name, Text.isWord c = true)
    (hf : ∀ c ∈ filler, isFiller c = true) (k : Nat) (rest : Text) :
    startsFrom k (spelled q name q' filler ++ rest) =
      ⟨k, k + (spelled q name q' filler).length, name, rest.head? == some ';'⟩ ::
        startsFrom (k + (spelled q name q' filler).length) rest := by
  have hm := matchAt?_spelled hq hq' hne hw hf k rest
  obtain ⟨inner, hinner, he⟩ := spelled_eq hq hq' hw hf
  have hno : '(' ∉ inner := fun hmem => ne_of_isInner (hinner _ hmem) (by decide) rfl
  have hskip := startsFrom_skip hno (by decide : ')' ∉ opening) (k + 7) rest
  have htext : spelled q name q' filler ++ rest =
      'm' :: 'o' :: 'd' :: 'u' :: 'l' :: 'e' :: '(' :: (inner ++ ')' :: rest) := by
    rw [he, opening_eq, List.append_assoc, List.append_assoc]
    rfl
  have hlen : k + 7 + (inner.length + 1) = k + (spelled q name q' filler).length := by
    rw [he, opening_eq]
    simp only [List.length_append, List.length_cons, List.length_nil]
    omega
  rw [hlen] at hskip
  rw [htext] at hm ⊢
  rw [startsFrom, hm, startsFrom_cons_of_ne (by decide), startsFrom_cons_of_ne (by decide),
    startsFrom_cons_of_ne (by decide), startsFrom_cons_of_ne (by decide),
    startsFrom_cons_of_ne (by decide), startsFrom_cons_of_ne (by decide), ← hskip]
  rfl

/-- The search that goes on after each declaration misses none. -/
theorem findAllFrom_eq_startsFrom (skip k : Nat) (t : Text) :
    findAllFrom skip k t = startsFrom (k + skip) (t.drop skip) := by
  induction t generalizing skip k with
  | nil => simp [findAllFrom, startsFrom]
  | cons c t ih =>
    cases skip with
    | succ n =>
      simp only [findAllFrom, ih, List.drop_succ_cons]
      congr 1
      omega
    | zero =>
      cases hr : read? (c :: t) with
      | none =>
        simp only [findAllFrom, startsFrom, matchAt?_eq_none hr, ih, Option.toList_none,
          List.drop_zero, List.nil_append, Nat.add_zero]
      | some d =>
        obtain ⟨q, q', filler, hq, hq', hne, hw, hf, ht⟩ := read?_eq_some_iff.mp hr
        have hm := matchAt?_spelled hq hq' hne hw hf k d.rest
        have hs := startsFrom_spelled hq hq' hne hw hf k d.rest
        have hpos : 0 < (spelled q d.name q' filler).length := by
          simp only [spelled, List.length_append, List.length_cons]
          omega
        have hdrop : t.drop ((spelled q d.name q' filler).length - 1) = d.rest := by
          have hd := congrArg (List.drop (spelled q d.name q' filler).length) ht
          rw [List.drop_left] at hd
          rw [← hd, ← List.drop_succ_cons (a := c), Nat.sub_add_cancel hpos]
        rw [← ht] at hm hs
        simp only [findAllFrom, hm, List.drop_zero, Nat.add_zero, hs, ih]
        congr 1
        rw [show k + (spelled q d.name q' filler).length - k - 1 =
          (spelled q d.name q' filler).length - 1 by omega, hdrop]
        congr 1
        omega

theorem findAll_eq_startsFrom (t : Text) : findAll t = startsFrom 0 t :=
  findAllFrom_eq_startsFrom 0 0 t

theorem mem_startsFrom {m : Match} {k : Nat} {t : Text} :
    m ∈ startsFrom k t ↔ ∃ p r, t = p ++ r ∧ matchAt? (k + p.length) r = some m := by
  induction t generalizing k with
  | nil =>
    simp only [startsFrom, List.not_mem_nil, false_iff]
    rintro ⟨p, r, ht, hr⟩
    obtain ⟨rfl, rfl⟩ := List.append_eq_nil_iff.mp ht.symm
    cases hr
  | cons c t ih =>
    rw [startsFrom, List.mem_append, ih, Option.mem_toList]
    constructor
    · rintro (hm | ⟨p, r, rfl, hm⟩)
      · exact ⟨[], c :: t, rfl, hm⟩
      · refine ⟨c :: p, r, rfl, ?_⟩
        rw [← hm, List.length_cons]
        congr 1
        omega
    · rintro ⟨p, r, ht, hm⟩
      cases p with
      | nil =>
        obtain rfl : c :: t = r := ht
        exact Or.inl hm
      | cons d p =>
        refine Or.inr ⟨p, r, (List.cons.inj ht).2, ?_⟩
        rw [← hm, List.length_cons]
        congr 1
        omega

theorem matchAt?_eq_some {k : Nat} {t : Text} {m : Match} (h : matchAt? k t = some m) :
    ∃ rest, read? t = some ⟨m.name, rest⟩ ∧ m.start = k ∧ m.stop + rest.length = k + t.length ∧
      m.closed = (rest.head? == some ';') := by
  obtain ⟨d, hd, rfl⟩ := Option.map_eq_some_iff.mp h
  obtain ⟨inner, -, ht⟩ := read?_eq_some hd
  have hlen : d.rest.length ≤ t.length := by
    rw [ht]
    simp only [List.length_append, List.length_cons]
    omega
  exact ⟨d.rest, hd, rfl, by simp only; omega, rfl⟩

theorem start_of_mem_startsFrom {m : Match} {k : Nat} {t : Text} (h : m ∈ startsFrom k t) :
    k ≤ m.start ∧ m.start < k + t.length := by
  obtain ⟨p, r, rfl, hm⟩ := mem_startsFrom.mp h
  obtain ⟨rest, hr, hstart, -, -⟩ := matchAt?_eq_some hm
  obtain ⟨inner, -, rfl⟩ := read?_eq_some hr
  simp only [List.length_append, List.length_cons]
  omega

theorem map_mark_startsFrom (j k : Nat) (t : Text) :
    (startsFrom j t).map Match.mark = (startsFrom k t).map Match.mark := by
  induction t generalizing j k with
  | nil => rfl
  | cons c t ih =>
    have hhead : (matchAt? j (c :: t)).toList.map Match.mark =
        (matchAt? k (c :: t)).toList.map Match.mark := by
      unfold matchAt?
      cases read? (c :: t) <;> rfl
    simp only [startsFrom, List.map_append, hhead, ih (j + 1) (k + 1)]

end LuaIndex.Declaration
