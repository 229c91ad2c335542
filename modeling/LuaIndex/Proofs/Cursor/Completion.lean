import LuaIndex.Proofs.Cursor.Definition

namespace LuaIndex.Cursor

theorem readAccess?_eq_some_iff {t module : Text} :
    readAccess? t = some module ↔
      ∃ rest, t = module ++ '.' :: rest ∧ module ≠ [] ∧ ∀ c ∈ module, Text.isWord c = true := by
  constructor
  · intro h
    unfold readAccess? at h
    dsimp only at h
    split at h
    case h_1 c word rest hword hrest =>
      obtain rfl := Option.some.inj h
      refine ⟨rest, ?_, by simp [hword], fun c hc => List.mem_takeWhile_imp hc⟩
      rw [← hrest, List.takeWhile_append_dropWhile]
    case h_2 => cases h
  · intro h
    obtain ⟨rest, rfl, hne, hword⟩ := h
    obtain ⟨c, cs, rfl⟩ := List.exists_cons_of_ne_nil hne
    have hdot : ∀ d, ('.' :: rest).head? = some d → Text.isWord d = false := by
      intro d hd
      obtain rfl : '.' = d := Option.some.inj hd
      decide
    have htake := Text.takeWhile_append_of_stop hword hdot
    have hdrop := Text.dropWhile_append_of_stop hword hdot
    simp only [readAccess?, htake, hdrop]

/-- What comes before the first dot of a text is told by the text. -/
theorem eq_of_append_dot {a b rest rest' : Text} (ha : '.' ∉ a) (hb : '.' ∉ b)
    (h : a ++ '.' :: rest = b ++ '.' :: rest') : a = b := by
  have htake : ∀ (x y : Text), '.' ∉ x → (x ++ '.' :: y).takeWhile (· ≠ '.') = x := by
    intro x y hx
    refine Text.takeWhile_append_of_stop (fun c hc => decide_eq_true fun he => hx (he ▸ hc)) ?_
    intro c hc
    obtain rfl : '.' = c := Option.some.inj hc
    rfl
  rw [← htake a rest ha, h, htake b rest' hb]

/-- The first access in a text is to the name before its first dot, if there is one right before it. -/
theorem search_readAccess? {before module rest : Text} (hdot : '.' ∉ before ++ module)
    (hne : module ≠ []) (hword : ∀ c ∈ module, Text.isWord c = true)
    (hwhole : ∀ c, before.getLast? = some c → Text.isWord c = false) :
    Text.search readAccess? 0 (before ++ module ++ '.' :: rest) = some (before.length, module) := by
  rw [Text.search_eq_some_iff]
  refine ⟨before, module ++ '.' :: rest, by simp, by simp,
    readAccess?_eq_some_iff.mpr ⟨rest, rfl, hne, hword⟩, ?_⟩
  intro q s hsplit hlt
  rw [Option.eq_none_iff_forall_ne_some]
  intro other hread
  obtain ⟨rest', rfl, -, hletters⟩ := readAccess?_eq_some_iff.mp hread
  rw [List.append_assoc] at hsplit
  rcases List.append_eq_append_iff.mp hsplit with ⟨more, hq, -⟩ | ⟨part, hpart, hrest⟩
  · rw [hq, List.length_append] at hlt
    omega
  · -- a name that starts earlier would hold what comes right before the first
    have hpart_ne : part ≠ [] := by
      intro hnil
      rw [hpart, hnil, List.append_nil] at hlt
      exact Nat.lt_irrefl _ hlt
    have hother : '.' ∉ other := fun hmem => absurd (hletters '.' hmem) (by decide)
    have hfront : '.' ∉ part ++ module := by
      intro hmem
      rw [hpart, List.append_assoc] at hdot
      exact hdot (List.mem_append_right q hmem)
    rw [← List.append_assoc] at hrest
    obtain rfl := eq_of_append_dot hother hfront hrest
    have hlast : before.getLast? = some (part.getLast hpart_ne) := by
      rw [hpart, List.getLast?_append_of_ne_nil _ hpart_ne, List.getLast?_eq_some_getLast hpart_ne]
    have hin := hletters _ (List.mem_append_left module (List.getLast_mem hpart_ne))
    rw [hwhole _ hlast] at hin
    cases hin

/-- With a single dot before the column, completions are for the module that a reference names. -/
theorem Dotted.accessed?_eq {line before module gap name rest : Text} {column : Int}
    (h : Dotted line column before module gap name rest)
    (hone : (line.take column.toNat).count '.' = 1) : accessed? line column = some module := by
  have hreach := h.reached
  obtain ⟨b, hsplit⟩ := exists_splitLastDot?_take_iff.mpr ⟨_, h.spelled, by omega, h.last⟩
  obtain ⟨htake, -⟩ := splitLastDot?_eq_some_iff.mp hsplit
  -- the last dot is the only one, so it is the first as well
  have hdot : '.' ∉ before ++ module := by
    rw [htake, List.count_append, List.count_cons_self] at hone
    exact List.count_eq_zero.mp (by omega)
  rw [accessed?, Text.takeTo_of_nonneg (by omega), htake,
    search_readAccess? hdot h.module_ne h.module_word h.module_whole]
  rfl

/-- The candidates are the whole table of the module that a reference names. -/
theorem candidates_of_reference? {r : Registry} {source line : Text} {number column : Int}
    (hc : 0 ≤ column) (hline : line? source number = some line)
    (hone : (line.take column.toNat).count '.' = 1) {ref : Reference}
    (h : reference? r source number column = some ref) :
    ∃ m name, r.module? ref.moduleName = some m ∧ m.functions.get? name = some ref.function ∧
      candidates r source number column =
        m.functions.map fun e => ⟨e.1, e.2, e.2.page false⟩ := by
  simp only [reference?, hline, Registry.functions?, Option.bind_eq_bind, Option.bind_some,
    Option.bind_eq_some_iff, Option.map_eq_some_iff] at h
  obtain ⟨⟨module, name?⟩, hnames, functions, ⟨m, hm, rfl⟩, name, hname, f, hf, href⟩ := h
  obtain rfl := Option.some.inj href
  dsimp only at hname
  rw [hname, names?_eq_some_iff hc] at hnames
  obtain ⟨before, gap, rest, hdotted⟩ := hnames
  refine ⟨m, name, hm, hf, ?_⟩
  simp only [candidates, completions, hline, hdotted.accessed?_eq hone, Registry.functions?, hm,
    Option.map_some, Option.getD_some]

/-- With a single dot before the cursor, if there is a reference, the candidates are all the functions of its
module in the order of the table, and the function referred to is one of them, under its own name and with
its page without the rule. Where there is no candidate, there is no reference. -/
theorem reference_among_candidates (settings : Settings) (calls : List (FileTree × Registry.Call))
    (source : Text) (number column : Int) (line : Text) (hc : 0 ≤ column)
    (hline : line? source number = some line) (hone : (line.take column.toNat).count '.' = 1) :
    let r := (Registry.empty settings).run calls
    (∀ ref, reference? r source number column = some ref →
      ∃ m, r.module? ref.moduleName = some m ∧
        m.functions.get? ref.function.name = some ref.function ∧
        candidates r source number column =
          m.functions.map (fun e => ⟨e.1, e.2, e.2.page false⟩) ∧
        ⟨ref.function.name, ref.function, ref.function.page false⟩ ∈
          candidates r source number column) ∧
      (candidates r source number column = [] → reference? r source number column = none) := by
  intro r
  constructor
  · intro ref href
    obtain ⟨m, name, hm, hf, hcandidates⟩ := candidates_of_reference? hc hline hone href
    have hmem : (name, ref.function) ∈ m.functions := Table.mem_of_get? hf
    -- the function stands under its own name, since a scan entered it
    obtain ⟨text, -, hscan⟩ := Registry.exists_lastRead hm
    obtain ⟨rfl, -, -⟩ := ModuleInfo.function_of_scan? hscan hmem
    refine ⟨m, hm, hf, hcandidates, ?_⟩
    rw [hcandidates, List.mem_map]
    exact ⟨_, hmem, rfl⟩
  · intro hempty
    rw [Option.eq_none_iff_forall_ne_some]
    intro ref href
    obtain ⟨m, name, -, hf, hcandidates⟩ := candidates_of_reference? hc hline hone href
    rw [hcandidates, List.map_eq_nil_iff] at hempty
    rw [hempty] at hf
    cases hf

/-- A file with two functions. -/
def twoFunctions : List (FileTree × Registry.Call) :=
  [(oneModule "module('Pack')\nfunction stop()\nfunction go()", .load [.ofText "src".toList])]

/-- Both are candidates where the second is referred to, the first of them first. -/
theorem second_function_among_candidates :
    ∃ ref, reference? ((Registry.empty .default).run twoFunctions) "return pack.go()".toList 0 40 =
        some ref ∧ ref.function.name = "go".toList ∧
      ⟨"go".toList, ref.function, ref.function.page false⟩ ∈
        candidates ((Registry.empty .default).run twoFunctions) "return pack.go()".toList 0 40 ∧
      (candidates ((Registry.empty .default).run twoFunctions) "return pack.go()".toList 0 40).map
        Candidate.name = ["stop".toList, "go".toList] := by
  have hsome : ((reference? ((Registry.empty .default).run twoFunctions) "return pack.go()".toList 0
      40).map fun ref => ref.function.name) = some "go".toList := by decide +kernel
  obtain ⟨ref, href, hname⟩ := Option.map_eq_some_iff.mp hsome
  obtain ⟨hfound, -⟩ := reference_among_candidates .default twoFunctions "return pack.go()".toList 0 40
    "return pack.go()".toList (by decide) (by decide +kernel) (by decide +kernel)
  obtain ⟨m, -, -, -, hmem⟩ := hfound ref href
  rw [hname] at hmem
  exact ⟨ref, href, hname, hmem, by decide +kernel⟩

end LuaIndex.Cursor
