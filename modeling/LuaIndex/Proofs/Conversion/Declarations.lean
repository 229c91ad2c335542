import LuaIndex.Module.Scan
import LuaIndex.Proofs.Conversion.LineByLine
import LuaIndex.Proofs.Source.Declarations

namespace LuaIndex.Conversion

open Declaration

/-- The text does not end with a letter that could be one of the opening of a declaration. -/
def EndsPlain (p : Text) : Prop :=
  ∀ c, p.getLast? = some c → c ∉ "module".toList

theorem endsPlain_concat {c : Char} (h : c ∉ "module".toList) (p : Text) : EndsPlain (p ++ [c]) := by
  intro d hd
  rw [List.getLast?_concat] at hd
  rwa [← Option.some.inj hd]

theorem endsPlain_append {p a : Text} (hp : EndsPlain p) (ha : EndsPlain a) :
    EndsPlain (p ++ a) := by
  intro c hc
  rw [List.getLast?_append] at hc
  cases hl : a.getLast? with
  | none => exact hp c (by simpa [hl] using hc)
  | some d => exact ha c (by simpa [hl] using hc)

/-- The characters of a name, of which there is at least one. -/
def IsName (w : Text) : Prop :=
  w ≠ [] ∧ ∀ c ∈ w, Text.isWord c = true

variable {module w g : Text}

theorem IsName.not_mem (hw : IsName w) {c : Char} (hc : Text.isWord c = false) : c ∉ w := by
  intro hmem
  have hword := hw.2 c hmem
  rw [hc] at hword
  cases hword

theorem IsName.head?_append (hw : IsName w) (z : Text) : (w ++ z).head? ≠ some ';' := by
  obtain ⟨c, t, rfl⟩ := List.exists_cons_of_ne_nil hw.1
  intro h
  obtain rfl : c = ';' := by simpa using h
  exact hw.not_mem (by decide) List.mem_cons_self

theorem not_mem_blank (hg : ∀ c ∈ g, Text.isBlank c = true) {c : Char}
    (hc : Text.isBlank c = false) : c ∉ g := by
  intro hmem
  rw [hg c hmem] at hc
  cases hc

theorem stops_name (hw : IsName w) (hg : ∀ c ∈ g, Text.isBlank c = true) {p : Text}
    (hp : EndsPlain p) (z : Text) : Stops p (w ++ (g ++ '(' :: z)) := by
  refine ⟨hw.head?_append _, Or.inr ⟨w ++ g, '(', z, by simp, ?_, by decide, by decide, ?_⟩⟩
  · rw [List.mem_append, not_or]
    exact ⟨hw.not_mem (by decide), not_mem_blank hg (by decide)⟩
  · rintro - u v rfl hv hmodule
    have hlast := List.getLast?_eq_some_getLast hv
    refine hp (v.getLast hv) (by rw [List.getLast?_append, hlast]; rfl) ?_
    rw [← hmodule]
    exact List.mem_append_left _ (List.getLast_mem hv)

theorem stops_field (hm : IsName module) (hw : IsName w) (hg : ∀ c ∈ g, Text.isBlank c = true)
    (p z : Text) : Stops p (qualified module w ++ (g ++ '(' :: z)) := by
  have hsplit : qualified module w ++ (g ++ '(' :: z) =
      (module ++ '.' :: (w ++ g)) ++ '(' :: z := by
    simp [qualified]
  refine ⟨by rw [hsplit, List.append_assoc]; exact hm.head?_append _,
    Or.inr ⟨_, '(', z, hsplit, ?_, by decide, by decide, ?_⟩⟩
  · simp only [List.mem_append, List.mem_cons, not_or]
    exact ⟨hm.not_mem (by decide), by decide, hw.not_mem (by decide), not_mem_blank hg (by decide)⟩
  · rintro - u v - - hmodule
    have hdot : '.' ∈ "module".toList := by
      rw [← hmodule]
      simp
    exact absurd hdot (by decide)

/-- A name made a field leaves all declarations as they are. -/
theorem marks_qualified (hm : IsName module) (hw : IsName w)
    (hg : ∀ c ∈ g, Text.isBlank c = true) {p : Text} (hp : EndsPlain p) (k : Nat) (z : Text) :
    (startsFrom k (p ++ (qualified module w ++ (g ++ '(' :: z)))).map Match.mark =
      (startsFrom k (p ++ (w ++ (g ++ '(' :: z)))).map Match.mark := by
  rw [startsFrom_append (stops_field hm hw hg p z), startsFrom_append (stops_name hw hg hp z),
    List.map_append, List.map_append]
  congr 1
  rw [qualified, List.append_assoc, List.cons_append,
    startsFrom_skip (hm.not_mem (by decide)) (by decide : '.' ∉ opening)]
  exact map_mark_startsFrom _ _ _

theorem startsFrom_table (hw : IsName w) (k : Nat) (p r : Text) :
    startsFrom k (p ++ (tableText w ++ r)) =
      startsFrom k p ++ startsFrom (k + p.length + (tableText w).length) r := by
  have hsplit : tableText w ++ r = (w ++ [' ']) ++ '=' :: (" \x7b\x7d;".toList ++ r) := by
    simp [tableText]
  have hstops : Stops p (tableText w ++ r) := by
    refine ⟨by rw [hsplit, List.append_assoc]; exact hw.head?_append _,
      Or.inr ⟨_, '=', _, hsplit, ?_, by decide, by decide, fun h => absurd h (by decide)⟩⟩
    rw [List.mem_append, not_or]
    exact ⟨hw.not_mem (by decide), by decide⟩
  have htable : tableText w ++ r = (w ++ " = \x7b\x7d".toList) ++ ';' :: r := by
    simp [tableText]
  have hno : '(' ∉ w ++ " = \x7b\x7d".toList := by
    rw [List.mem_append, not_or]
    exact ⟨hw.not_mem (by decide), by decide⟩
  rw [startsFrom_append hstops, htable, startsFrom_skip hno (by decide : ';' ∉ opening)]
  simp [tableText]

theorem startsFrom_statement {r rest : Text} (hr : read? r = some ⟨w, ';' :: rest⟩) (k : Nat)
    (p z : Text) :
    ∃ m : Match, m.start = k + p.length ∧
      startsFrom k (p ++ (r ++ z)) =
        startsFrom k p ++ m :: startsFrom (k + p.length + (r.length - rest.length)) (rest ++ z) := by
  obtain ⟨q, q', filler, hq, hq', hne, hw, hf, rfl⟩ := read?_eq_some_iff.mp hr
  have happ : (spelled q w q' filler ++ ';' :: rest) ++ z =
      spelled q w q' filler ++ ';' :: (rest ++ z) := by
    simp
  have hstops : Stops p (spelled q w q' filler ++ ';' :: (rest ++ z)) := by
    refine ⟨by rw [spelled, opening_eq]; simp, Or.inr ⟨"module".toList, '(',
      q :: (w ++ q' :: (filler ++ [')'])) ++ ';' :: (rest ++ z), by rw [spelled, opening_eq]; simp,
      by decide, by decide, by decide, ?_⟩⟩
    rintro - u v - hv hmodule
    exact hv (List.append_cancel_right (hmodule.trans (List.nil_append _).symm))
  refine ⟨⟨k + p.length, k + p.length + (spelled q w q' filler).length, w, true⟩, rfl, ?_⟩
  rw [happ, startsFrom_append hstops, startsFrom_spelled hq hq' hne hw hf,
    startsFrom_cons_of_ne (by decide : ';' ≠ 'm')]
  congr 3
  simp only [List.length_append, List.length_cons]
  omega

theorem startsFrom_append_plain {r : Text} (hopen : '(' ∉ r) (hclose : ')' ∉ r)
    (hhead : r.head? ≠ some ';') (k : Nat) (p : Text) :
    startsFrom k (p ++ r) = startsFrom k p := by
  rw [startsFrom_append ⟨hhead, Or.inl hclose⟩, startsFrom_eq_nil hopen, List.append_nil]

/-- Bare calls made calls of fields leave all declarations as they are. -/
theorem marks_calls (hm : IsName module) {names : List Text} (hn : ∀ n ∈ names, IsName n)
    {p l : Text} (hp : EndsPlain p) {spans : List Span}
    (hcall : ∀ s ∈ spans, CallSite.IsCall names l s)
    (hspans : spans.Pairwise fun a b => a.stop < b.start) (k : Nat) (z : Text) :
    (startsFrom k (p ++ (spans.foldr (fun s t => Text.splice t s.start s.stop
        (qualified module s.name)) l ++ z))).map Match.mark =
      (startsFrom k (p ++ (l ++ z))).map Match.mark := by
  induction spans with
  | nil => rfl
  | cons s spans ih =>
    obtain ⟨hfirst, hrest⟩ := List.pairwise_cons.mp hspans
    have hcalls : ∀ x ∈ spans, CallSite.IsCall names l x :=
      fun x hx => hcall x (List.mem_cons_of_mem s hx)
    rw [← ih hcalls hrest]
    have hs := hcall s List.mem_cons_self
    have hlimit := hs.bounds.1
    obtain ⟨hname, hstop, a, r, hl, hstart, hadmits⟩ := hs
    -- the calls further right leave this one and the parenthesis after it in place
    have hfollow : Splice.Follow l.length (s.stop + 1 : Nat) (spans.map fun x =>
        (⟨x.start, x.stop, qualified module x.name⟩ : Splice)) := by
      refine Splice.follow_of_pairwise (by omega) ?_ ?_
      · intro x hx
        obtain ⟨y, hy, rfl⟩ := List.mem_map.mp hx
        have hlt := hfirst y hy
        have hend := (hcalls y hy).bounds.1
        have hlen := (hcalls y hy).2.1
        exact ⟨by simp only; omega, by simp only; omega, by simp only; omega⟩
      · rw [List.pairwise_map]
        exact hrest.imp fun {x y} hxy => by simp only; omega
    have hkeep := hfollow.take_foldr_put (n := s.stop + 1) (by simp)
    rw [List.foldr_map] at hkeep
    simp only [Splice.put, Int.toNat_natCast] at hkeep
    rw [List.foldr_cons]
    generalize spans.foldr (fun x t => Text.splice t x.start x.stop (qualified module x.name)) l =
      t at hkeep
    obtain ⟨r', rfl⟩ : ∃ r', t = a ++ (s.name ++ '(' :: r') := by
      have hcut : l.take (s.stop + 1) = a ++ (s.name ++ ['(']) := by
        rw [hl, show s.stop + 1 = (a ++ (s.name ++ ['('])).length by simp; omega,
          show a ++ (s.name ++ '(' :: r) = (a ++ (s.name ++ ['('])) ++ r by simp, List.take_left]
      refine ⟨t.drop (s.stop + 1), ?_⟩
      conv_lhs => rw [← List.take_append_drop (s.stop + 1) t, hkeep, hcut]
      simp
    have hplain : EndsPlain (p ++ a) := by
      refine endsPlain_append hp fun c hc hmem => ?_
      rw [hc] at hadmits
      simp [CallSite.admits, isWord_of_mem_module hmem] at hadmits
    have hmarks := marks_qualified hm (hn _ hname) (g := []) (by simp) hplain k (r' ++ z)
    rw [hstop, hstart, Text.splice_middle]
    simpa using hmarks

/-- Where the conversion replaces a statement on a line that starts at `base`. -/
def replacedOn (base : Nat) (l : Text) : List Nat :=
  match findStatement? l with
  | some span => [base + span.start]
  | none => []

/-- Where the conversion replaces statements on lines, the first of which starts at `base`. -/
def replacedFrom (base : Nat) : List Text → List Nat
  | [] => []
  | l :: ls => replacedOn base l ++ replacedFrom (base + (l.length + 1)) ls

theorem le_of_mem_replacedOn {base o : Nat} {l : Text} (h : o ∈ replacedOn base l) : base ≤ o := by
  unfold replacedOn at h
  split at h
  case h_1 span _ =>
    obtain rfl := List.mem_singleton.mp h
    omega
  case h_2 => cases h

theorem le_of_mem_replacedFrom {base o : Nat} {ls : List Text} (h : o ∈ replacedFrom base ls) :
    base ≤ o := by
  induction ls generalizing base with
  | nil => cases h
  | cons l ls ih =>
    rcases List.mem_append.mp h with h | h
    · exact le_of_mem_replacedOn h
    · have hle := ih h
      omega

/-- What the declarations of a text tell, without those that start at the given places. -/
def marksWithout (removed : List Nat) (ms : List Match) : List (Text × Bool) :=
  (ms.filter fun m => m.start ∉ removed).map Match.mark

theorem marksWithout_append (removed : List Nat) (ms ns : List Match) :
    marksWithout removed (ms ++ ns) = marksWithout removed ms ++ marksWithout removed ns := by
  simp [marksWithout]

theorem marksWithout_congr {removed removed' : List Nat} {ms : List Match}
    (h : ∀ m ∈ ms, m.start ∈ removed ↔ m.start ∈ removed') :
    marksWithout removed ms = marksWithout removed' ms := by
  unfold marksWithout
  congr 1
  exact List.filter_congr fun m hm => by simp [h m hm]

theorem marksWithout_eq_map {removed : List Nat} {ms : List Match}
    (h : ∀ m ∈ ms, m.start ∉ removed) : marksWithout removed ms = ms.map Match.mark := by
  have hnone : marksWithout removed ms = marksWithout [] ms :=
    marksWithout_congr fun m hm => by simp [h m hm]
  rw [hnone]
  simp [marksWithout]

/-- Whatever stands before it, the converted text that starts at `base` has the declarations of the
original, without those that start at the given places. -/
def Keeps (base : Nat) (removed : List Nat) (original converted : Text) : Prop :=
  ∀ k p, k + p.length = base →
    (startsFrom k (p ++ converted)).map Match.mark =
      marksWithout removed (startsFrom k (p ++ original))

variable {names : List Text}

theorem keeps_plainLine (hm : IsName module) (hn : ∀ n ∈ names, IsName n) {p l : Text}
    (hp : EndsPlain p) (hs : findStatement? l = none) (k : Nat) (z : Text) :
    (startsFrom k (p ++ (convertLine module names l ++ z))).map Match.mark =
      (startsFrom k (p ++ (l ++ z))).map Match.mark := by
  unfold convertLine
  simp only [hs]
  cases hd : Definition.findTopLevel? l with
  | some span =>
    obtain ⟨gap, gap', rest, hgap, hne, hw, hname, hgap', rfl, hstart, hstop⟩ :=
      Definition.read?_eq_some hd
    have hplain : EndsPlain (p ++ (Definition.keyword ++ gap)) := by
      obtain ⟨b, c, rfl⟩ : ∃ b c, gap = b ++ [c] := ⟨_, _, (List.dropLast_concat_getLast hne).symm⟩
      have hc : c ∉ "module".toList := by
        intro hmem
        have hall : "module".toList.all (fun d => !Text.isBlank d) = true := by decide
        have hblank := List.all_eq_true.mp hall c hmem
        rw [hgap c (by simp)] at hblank
        cases hblank
      rw [← List.append_assoc, ← List.append_assoc]
      exact endsPlain_concat hc _
    have hmarks := marks_qualified hm ⟨hname, hw⟩ hgap' hplain k (rest ++ z)
    simp only [hstop, hstart, Text.splice_middle]
    simpa using hmarks
  | none =>
    exact marks_calls hm hn hp (fun s => CallSite.isCall_of_mem_find)
      (CallSite.find_pairwise names l) k z

theorem keeps_statementLine {base : Nat} {l z z' : Text} {removed : List Nat} {span : Span}
    (hs : findStatement? l = some span) (hz : Keeps (base + l.length) removed z z')
    (hle : ∀ o ∈ removed, base + l.length ≤ o) {k : Nat} {p : Text} (hk : k + p.length = base) :
    (startsFrom k (p ++ (convertLine module names l ++ z'))).map Match.mark =
      marksWithout ((base + span.start) :: removed) (startsFrom k (p ++ (l ++ z))) := by
  obtain ⟨a, r, rest, rfl, hstart, hr, hstop, -⟩ := findStatement?_eq_some hs
  obtain ⟨q, q', filler, -, -, hne, hw, -, hspell⟩ := read?_eq_some_iff.mp hr
  have hlen := congrArg List.length hspell
  have hline : convertLine module names (a ++ r) = a ++ (tableText span.name ++ rest) := by
    have hcut : r = (spelled q span.name q' filler ++ [';']) ++ rest := by simp [hspell]
    have hend : span.stop = a.length + (spelled q span.name q' filler ++ [';']).length := by
      simp only [List.length_append, List.length_cons, List.length_nil] at hstop hlen ⊢
      omega
    simp only [convertLine, hs]
    rw [hstart, hend, hcut, Text.splice_middle]
  -- what starts before the statement ends before it, and what comes after it starts anew
  obtain ⟨m, hm, horig⟩ := startsFrom_statement hr k (p ++ a) z
  simp only [List.length_append, List.length_cons] at hk hlen hm hle
  let after := k + (p ++ a).length + (r.length - rest.length)
  have hafter : after + rest.length = base + (a ++ r).length := by
    simp only [after, List.length_append]
    omega
  have hconv : (startsFrom k (p ++ (convertLine module names (a ++ r) ++ z'))).map Match.mark =
      (startsFrom k (p ++ a)).map Match.mark ++
        marksWithout removed (startsFrom after (rest ++ z)) := by
    rw [← hz after rest hafter, hline, map_mark_startsFrom after _ (rest ++ z'), ← List.map_append,
      ← startsFrom_table ⟨hne, hw⟩]
    simp
  have hleft : marksWithout ((base + a.length) :: removed) (startsFrom k (p ++ a)) =
      (startsFrom k (p ++ a)).map Match.mark := by
    refine marksWithout_eq_map fun x hx hmem => ?_
    have hlt := (start_of_mem_startsFrom hx).2
    simp only [List.length_append] at hlt
    rcases List.mem_cons.mp hmem with he | hmem
    · omega
    · have hge := hle _ hmem
      omega
  have hright : marksWithout ((base + a.length) :: removed) (m :: startsFrom after (rest ++ z)) =
      marksWithout removed (startsFrom after (rest ++ z)) := by
    have hm' : m.start = base + a.length := by omega
    have hrest : marksWithout ((base + a.length) :: removed) (startsFrom after (rest ++ z)) =
        marksWithout removed (startsFrom after (rest ++ z)) := by
      refine marksWithout_congr fun x hx => ?_
      have hge := (start_of_mem_startsFrom hx).1
      have hx' : x.start ≠ base + a.length := by
        simp only [after, List.length_append] at hge
        omega
      simp [hx']
    rw [← hrest]
    simp [marksWithout, hm']
  rw [hconv, hstart, List.append_assoc a, ← List.append_assoc p, horig, marksWithout_append, hleft,
    hright]

/-- A line takes away its first statement, and keeps every other declaration that starts before its
end. -/
theorem keeps_line (hm : IsName module) (hn : ∀ n ∈ names, IsName n) {base : Nat} {l z z' : Text}
    {removed : List Nat} (hz : Keeps (base + l.length) removed z z')
    (hle : ∀ o ∈ removed, base + l.length ≤ o) {k : Nat} {p : Text} (hk : k + p.length = base)
    (hp : EndsPlain p) :
    (startsFrom k (p ++ (convertLine module names l ++ z'))).map Match.mark =
      marksWithout (replacedOn base l ++ removed) (startsFrom k (p ++ (l ++ z))) := by
  cases hs : findStatement? l with
  | some span =>
    simp only [replacedOn, hs]
    exact keeps_statementLine hs hz hle hk
  | none =>
    have hrest := hz k (p ++ l) (by simp only [List.length_append]; omega)
    rw [List.append_assoc, List.append_assoc] at hrest
    simp only [keeps_plainLine hm hn hp hs, replacedOn, hs, List.nil_append, hrest]

theorem keeps_last (hm : IsName module) (hn : ∀ n ∈ names, IsName n) {base : Nat} (last : Text)
    {k : Nat} {p : Text} (hk : k + p.length = base) (hp : EndsPlain p) :
    (startsFrom k (p ++ withReturn module (convertLine module names last))).map Match.mark =
      marksWithout (replacedOn base last) (startsFrom k (p ++ last)) := by
  have hmodule : '(' ∉ module ∧ ')' ∉ module := ⟨hm.not_mem (by decide), hm.not_mem (by decide)⟩
  have hblank : ∀ t : Text, (∀ c ∈ t, Text.isBlank c = true) → '(' ∉ t ∧ ')' ∉ t ∧ ';' ∉ t :=
    fun t ht => ⟨not_mem_blank ht (by decide), not_mem_blank ht (by decide),
      not_mem_blank ht (by decide)⟩
  unfold withReturn
  split
  case isTrue hall =>
    have hconv := hblank _ (List.all_eq_true.mp hall)
    have hlast := hblank last (Text.strip_eq_nil_iff.mp ((strip_convertLine
      (fun n h => (hn n h).1) last).mp (all_isBlank_iff.mp hall)))
    have hhead : last.head? ≠ some ';' := fun h => hlast.2.2 (List.mem_of_mem_head? h)
    rw [startsFrom_append_plain (by simp [hmodule, hconv]) (by simp [hmodule, hconv]) (by simp),
      startsFrom_append_plain hlast.1 hlast.2.1 hhead]
    refine (marksWithout_eq_map fun m hmem ho => ?_).symm
    have hlt := (start_of_mem_startsFrom hmem).2
    have hge := le_of_mem_replacedOn ho
    omega
  case isFalse =>
    have hreturn : Keeps (base + last.length) [] []
        ("\n\nreturn ".toList ++ module ++ ";\n".toList) := by
      intro j q _
      rw [startsFrom_append_plain (by simp [hmodule]) (by simp [hmodule]) (by simp)]
      simp [marksWithout]
    have hline := keeps_line hm hn hreturn (by simp) hk hp
    simpa using hline

/-- The lines of a text one after the other, and the statement that returns the table. -/
theorem keeps_lines (hm : IsName module) (hn : ∀ n ∈ names, IsName n) (ls : List Text)
    (last : Text) {base k : Nat} {p : Text} (hk : k + p.length = base) (hp : EndsPlain p) :
    (startsFrom k (p ++ Text.unlines (ls.map (convertLine module names) ++
        [withReturn module (convertLine module names last)]))).map Match.mark =
      marksWithout (replacedFrom base (ls ++ [last]))
        (startsFrom k (p ++ Text.unlines (ls ++ [last]))) := by
  induction ls generalizing base k p with
  | nil => simpa [replacedFrom, Text.unlines] using keeps_last hm hn last hk hp
  | cons l ls ih =>
    have hrest : Keeps (base + l.length) (replacedFrom (base + (l.length + 1)) (ls ++ [last]))
        ('\n' :: Text.unlines (ls ++ [last]))
        ('\n' :: Text.unlines (ls.map (convertLine module names) ++
          [withReturn module (convertLine module names last)])) := by
      intro j q hj
      have hbase : j + (q ++ ['\n']).length = base + (l.length + 1) := by
        simp only [List.length_append, List.length_cons, List.length_nil]
        omega
      have hnext := ih hbase (endsPlain_concat (by decide) q)
      simpa using hnext
    have hle : ∀ o ∈ replacedFrom (base + (l.length + 1)) (ls ++ [last]), base + l.length ≤ o := by
      intro o ho
      have hbound := le_of_mem_replacedFrom ho
      omega
    rw [List.cons_append, List.map_cons, List.cons_append, Text.unlines_cons l (by simp),
      Text.unlines_cons _ (by simp), replacedFrom]
    exact keeps_line hm hn hrest hle hk hp

end LuaIndex.Conversion
