import LuaIndex.Cursor
import LuaIndex.Proofs.Module.Definitions
import LuaIndex.Proofs.Registry.Readings

namespace LuaIndex

namespace Text

/-- A text is what stripping leaves of its end, and white space. -/
theorem exists_stripRight_append (t : Text) :
    ∃ blanks, t = stripRight t ++ blanks ∧ ∀ c ∈ blanks, isBlank c = true := by
  refine ⟨(t.reverse.takeWhile isBlank).reverse, ?_, fun c hc => ?_⟩
  · have hsplit := congrArg List.reverse (List.takeWhile_append_dropWhile (p := isBlank) (l := t.reverse))
    rw [List.reverse_append, List.reverse_reverse] at hsplit
    exact hsplit.symm
  · exact List.mem_takeWhile_imp (List.mem_reverse.mp hc)

theorem takeWhile_isWord_stripRight (t : Text) :
    (stripRight t).takeWhile isWord = t.takeWhile isWord := by
  obtain ⟨blanks, ht, hblank⟩ := exists_stripRight_append t
  obtain ⟨rest, hr, hword, hrest⟩ := takeWhile_eq_iff.mp (rfl : (stripRight t).takeWhile isWord = _)
  refine (takeWhile_eq_iff.mpr ⟨rest ++ blanks, ?_, hword, ?_⟩).symm
  · rw [← List.append_assoc, ← hr]
    exact ht
  · intro c hc
    cases rest with
    | nil =>
      have hmem : c ∈ blanks := List.mem_of_mem_head? hc
      exact isWord_of_isBlank (hblank c hmem)
    | cons d rest => exact hrest c hc

end Text

namespace Cursor

/-- The last dot before a column stands between two names, of which the second may come after white
space. Both are whole: the line has no further character of a name before the first or after the
second. -/
structure Dotted (line : Text) (column : Int) (before module gap name rest : Text) : Prop where
  spelled : line = before ++ module ++ '.' :: (gap ++ (name ++ rest))
  reached : ((before ++ module).length : Int) < column
  last : '.' ∉ (line.take column.toNat).drop ((before ++ module).length + 1)
  module_ne : module ≠ []
  module_word : ∀ c ∈ module, Text.isWord c = true
  module_whole : ∀ c, before.getLast? = some c → Text.isWord c = false
  gap_blank : ∀ c ∈ gap, Text.isBlank c = true
  name_ne : name ≠ []
  name_word : ∀ c ∈ name, Text.isWord c = true
  name_whole : ∀ c, rest.head? = some c → Text.isWord c = false

/-- The cursor stands after the dot of an access to a name of a module. -/
def Accesses (line : Text) (column : Int) (module name : Text) : Prop :=
  ∃ before gap rest, Dotted line column before module gap name rest

theorem splitLastDot?_eq_some_iff {t a b : Text} :
    splitLastDot? t = some (a, b) ↔ t = a ++ '.' :: b ∧ '.' ∉ b := by
  constructor
  · intro h
    unfold splitLastDot? at h
    split at h
    case h_1 => cases h
    case h_2 c before hd =>
      obtain ⟨rfl, rfl⟩ := Prod.mk.inj (Option.some.inj h)
      have hdot : c = '.' := by
        have hhead := List.head?_dropWhile_not (fun x => decide (x ≠ '.')) t.reverse
        rw [hd] at hhead
        simpa using hhead
      have hsplit := List.takeWhile_append_dropWhile (p := fun x => decide (x ≠ '.')) (l := t.reverse)
      rw [hd, hdot] at hsplit
      refine ⟨?_, fun hmem => ?_⟩
      · have ht := congrArg List.reverse hsplit
        simpa using ht.symm
      · have hne := List.mem_takeWhile_imp (List.mem_reverse.mp hmem)
        simp at hne
  · rintro ⟨rfl, hb⟩
    have hne : ∀ c ∈ b.reverse, decide (c ≠ '.') = true := by
      intro c hc
      rw [List.mem_reverse] at hc
      exact decide_eq_true fun he => hb (he ▸ hc)
    have hrev : (a ++ '.' :: b).reverse = b.reverse ++ '.' :: a.reverse := by simp
    unfold splitLastDot?
    rw [hrev, List.dropWhile_append_of_pos hne, List.takeWhile_append_of_pos hne]
    simp

theorem splitLastDot?_eq_none_iff {t : Text} : splitLastDot? t = none ↔ '.' ∉ t := by
  have hnil : t.reverse.dropWhile (· ≠ '.') = [] ↔ '.' ∉ t := by
    simp only [List.dropWhile_eq_nil_iff, List.mem_reverse, decide_eq_true_eq]
    exact ⟨fun h hmem => h '.' hmem rfl, fun h c hc he => h (he ▸ hc)⟩
  rw [← hnil]
  unfold splitLastDot?
  split
  case h_1 h => exact iff_of_true rfl h
  case h_2 c before h =>
    refine iff_of_false (by simp) ?_
    rw [h]
    exact List.cons_ne_nil c before

theorem drop_dot (a b : Text) : (a ++ '.' :: b).drop (a.length + 1) = b := by
  rw [List.drop_length_add_append]
  rfl

theorem take_dot (a b : Text) : (a ++ '.' :: b).take (a.length + 1) = a ++ ['.'] := by
  rw [List.take_length_add_append]
  rfl

/-- What stands before the last dot of the first `k` characters of a line. -/
theorem exists_splitLastDot?_take_iff {line a : Text} {k : Nat} :
    (∃ b, splitLastDot? (line.take k) = some (a, b)) ↔
      ∃ tail, line = a ++ '.' :: tail ∧ a.length < k ∧ '.' ∉ (line.take k).drop (a.length + 1) := by
  constructor
  · rintro ⟨b, hb⟩
    obtain ⟨hline, hdot⟩ := splitLastDot?_eq_some_iff.mp hb
    have hlen := congrArg List.length hline
    simp only [List.length_take, List.length_append, List.length_cons] at hlen
    refine ⟨b ++ line.drop k, ?_, by omega, ?_⟩
    · calc line = line.take k ++ line.drop k := (List.take_append_drop k line).symm
        _ = a ++ '.' :: (b ++ line.drop k) := by rw [hline, List.append_assoc, List.cons_append]
    · rw [hline, drop_dot]
      exact hdot
  · rintro ⟨tail, hline, hk, hdot⟩
    refine ⟨(line.take k).drop (a.length + 1), splitLastDot?_eq_some_iff.mpr ⟨?_, hdot⟩⟩
    have hfirst : (line.take k).take (a.length + 1) = a ++ ['.'] := by
      rw [List.take_take, Nat.min_eq_left hk, hline, take_dot]
    calc line.take k
        = (line.take k).take (a.length + 1) ++ (line.take k).drop (a.length + 1) :=
          (List.take_append_drop _ _).symm
      _ = a ++ '.' :: (line.take k).drop (a.length + 1) := by
          rw [hfirst, List.append_assoc]
          rfl

theorem nameAtEnd?_eq_some_iff {t n : Text} :
    nameAtEnd? t = some n ↔
      ∃ before, t = before ++ n ∧ n ≠ [] ∧ (∀ c ∈ n, Text.isWord c = true) ∧
        ∀ c, before.getLast? = some c → Text.isWord c = false := by
  unfold nameAtEnd?
  constructor
  · intro h
    dsimp only at h
    split at h
    case isTrue => cases h
    case isFalse hne =>
      obtain rfl := Option.some.inj h
      obtain ⟨rest, ht, hword, hrest⟩ :=
        Text.takeWhile_eq_iff.mp (rfl : t.reverse.takeWhile Text.isWord = _)
      refine ⟨rest.reverse, ?_, by simpa using hne, ?_, ?_⟩
      · simpa using congrArg List.reverse ht
      · exact fun c hc => hword c (List.mem_reverse.mp hc)
      · exact fun c hc => hrest c (by simpa using hc)
  · rintro ⟨before, rfl, hne, hword, hwhole⟩
    have htake : (before ++ n).reverse.takeWhile Text.isWord = n.reverse := by
      refine Text.takeWhile_eq_iff.mpr ⟨before.reverse, by simp, ?_, ?_⟩
      · exact fun c hc => hword c (List.mem_reverse.mp hc)
      · exact fun c hc => hwhole c (by simpa using hc)
    have hempty : ¬ n.isEmpty = true := by simpa using hne
    simp only [htake, List.reverse_reverse, if_neg hempty]

theorem nameAtStart?_eq_some_iff {t n : Text} :
    nameAtStart? t = some n ↔
      ∃ gap rest, t = gap ++ (n ++ rest) ∧ (∀ c ∈ gap, Text.isBlank c = true) ∧ n ≠ [] ∧
        (∀ c ∈ n, Text.isWord c = true) ∧ ∀ c, rest.head? = some c → Text.isWord c = false := by
  have hstrip : (Text.strip t).takeWhile Text.isWord =
      (t.dropWhile Text.isBlank).takeWhile Text.isWord := Text.takeWhile_isWord_stripRight _
  unfold nameAtStart?
  rw [hstrip]
  constructor
  · intro h
    dsimp only at h
    split at h
    case isTrue => cases h
    case isFalse hne =>
      obtain rfl := Option.some.inj h
      obtain ⟨rest, ht, hword, hrest⟩ :=
        Text.takeWhile_eq_iff.mp (rfl : (t.dropWhile Text.isBlank).takeWhile Text.isWord = _)
      refine ⟨t.takeWhile Text.isBlank, rest, ?_, fun c hc => List.mem_takeWhile_imp hc,
        by simpa using hne, hword, hrest⟩
      rw [← ht, List.takeWhile_append_dropWhile]
  · rintro ⟨gap, rest, rfl, hgap, hne, hword, hwhole⟩
    have hdrop : (gap ++ (n ++ rest)).dropWhile Text.isBlank = n ++ rest :=
      Text.dropWhile_append_of_stop hgap (Text.not_isBlank_head hne hword _)
    have htake := Text.takeWhile_append_of_stop hword hwhole
    simp [hdrop, htake, hne]

/-- The names that are found for a column are those around the last dot before it. -/
theorem names?_eq_some_iff {line : Text} {column : Int} (hc : 0 ≤ column) {module name : Text} :
    names? line column = some (module, some name) ↔ Accesses line column module name := by
  unfold names?
  rw [Text.takeTo_of_nonneg hc]
  constructor
  · intro h
    split at h
    case h_1 => cases h
    case h_2 a b hsplit =>
      split at h
      case h_1 => cases h
      case h_2 found hfound =>
        obtain ⟨rfl, hname⟩ := Prod.mk.inj (Option.some.inj h)
        obtain ⟨tail, hline, hreach, hlast⟩ := exists_splitLastDot?_take_iff.mp ⟨b, hsplit⟩
        obtain ⟨before, rfl, hne, hword, hwhole⟩ := nameAtEnd?_eq_some_iff.mp hfound
        rw [hline, drop_dot] at hname
        obtain ⟨gap, rest, rfl, hgap, hnne, hnword, hnwhole⟩ := nameAtStart?_eq_some_iff.mp hname
        exact ⟨before, gap, rest, hline, by omega, hlast, hne, hword, hwhole, hgap, hnne, hnword,
          hnwhole⟩
  · rintro ⟨before, gap, rest, hd⟩
    have hreach := hd.reached
    obtain ⟨b, hsplit⟩ :=
      exists_splitLastDot?_take_iff.mpr ⟨_, hd.spelled, by omega, hd.last⟩
    have hmodule := nameAtEnd?_eq_some_iff.mpr
      ⟨before, rfl, hd.module_ne, hd.module_word, hd.module_whole⟩
    have hname : nameAtStart? (line.drop ((before ++ module).length + 1)) = some name := by
      rw [hd.spelled, drop_dot]
      exact nameAtStart?_eq_some_iff.mpr
        ⟨gap, rest, rfl, hd.gap_blank, hd.name_ne, hd.name_word, hd.name_whole⟩
    simp only [hsplit, hmodule, hname]

/-- A definition is found exactly for an access to a function of a module that the registry has. -/
theorem definition?_eq_some_iff {r : Registry} {source : Text} {line column : Int}
    (hc : 0 ≤ column) {place : Location} :
    definition? r source line column = some place ↔
      ∃ l module name m f, 0 ≤ line ∧ (Text.lines source)[line.toNat]? = some l ∧
        Accesses l column module name ∧ r.module? module = some m ∧
        m.functions.get? name = some f ∧ f.location = place := by
  have hline : ∀ l, line? source line = some l ↔
      0 ≤ line ∧ (Text.lines source)[line.toNat]? = some l := by
    intro l
    unfold line?
    split
    case isTrue hneg => simp [show ¬ 0 ≤ line by omega]
    case isFalse hpos => simp [show 0 ≤ line by omega]
  simp only [definition?, reference?, Option.map_eq_some_iff, Option.bind_eq_bind,
    Option.bind_eq_some_iff, Registry.functions?, hline]
  constructor
  · rintro ⟨ref, ⟨l, ⟨h0, hl⟩, ⟨module, name?⟩, hn, functions, ⟨m, hm, rfl⟩, name, hname, f, hf, hr⟩, hp⟩
    dsimp only at hname hm
    rw [hname, names?_eq_some_iff hc] at hn
    obtain rfl := Option.some.inj hr
    exact ⟨l, module, name, m, f, h0, hl, hn, hm, hf, hp⟩
  · rintro ⟨l, module, name, m, f, h0, hl, hn, hm, hf, hp⟩
    exact ⟨⟨module, f⟩, ⟨l, ⟨h0, hl⟩, (module, some name), (names?_eq_some_iff hc).mpr hn,
      m.functions, ⟨m, hm, rfl⟩, name, rfl, f, hf, rfl⟩, hp⟩

/-- The names around the last dot before the cursor lead to this place: its path is the file that owns the
first name, and in the text last read from this file its range covers the second. -/
def LeadsTo (settings : Settings) (calls : List (FileTree × Registry.Call)) (source : Text)
    (line column : Int) (place : Location) : Prop :=
  ∃ l module name m text, 0 ≤ line ∧ (Text.lines source)[line.toNat]? = some l ∧
    Accesses l column module name ∧
    ((Registry.empty settings).run calls).module? module = some m ∧ m.path = place.path ∧
    ((Registry.empty settings).run calls).owners.get? place.path = some (Text.lower module) ∧
    Registry.LastRead settings calls place.path text ∧ place.range.Covers text name

/-- After every run, for every document and cursor, a definition that is found is the right one. -/
theorem leadsTo_of_definition? (settings : Settings) (calls : List (FileTree × Registry.Call))
    (source : Text) (line column : Int) (hc : 0 ≤ column) (place : Location)
    (h : definition? ((Registry.empty settings).run calls) source line column = some place) :
    LeadsTo settings calls source line column place := by
  obtain ⟨l, module, name, m, f, h0, hl, hn, hm, hf, rfl⟩ := (definition?_eq_some_iff hc).mp h
  have hrecord := (Registry.recorded_empty settings).run calls
  obtain ⟨text, hlast, hscan⟩ := Registry.exists_lastRead hm
  obtain ⟨-, hpath, hcovers⟩ := ModuleInfo.function_of_scan? hscan (Table.mem_of_get? hf)
  refine ⟨l, module, name, m, text, h0, hl, hn, hm, hpath.symm, ?_, ?_, hcovers⟩
  · rw [hpath]
    exact hrecord.owner hm
  · rw [hpath]
    exact hlast

/-- A directory with a module file of the given text. -/
def oneModule (text : String) : FileTree :=
  (FileTree.empty []).write (.ofText "src/aM.lua".toList) text.toUTF8.toList

/-- A file is loaded, and then its function moves. -/
def moved : List (FileTree × Registry.Call) :=
  [(oneModule "module('Pack')\nfunction go()", .load [.ofText "src".toList]),
    (oneModule "module('Pack')\r\n\r\nlocal function go ()", .change "src/aM.lua".toList)]

/-- The cursor leads to where the function is now. -/
theorem leadsTo_moved :
    definition? ((Registry.empty .default).run moved) "\nx.y pack. go".toList 1 9 =
        some ⟨"src/aM.lua".toList, .onLine 2 15 17⟩ ∧
      LeadsTo .default moved "\nx.y pack. go".toList 1 9
        ⟨"src/aM.lua".toList, .onLine 2 15 17⟩ := by
  have h : definition? ((Registry.empty .default).run moved) "\nx.y pack. go".toList 1 9 =
      some ⟨"src/aM.lua".toList, .onLine 2 15 17⟩ := by decide +kernel
  exact ⟨h, leadsTo_of_definition? .default moved _ 1 9 (by decide) _ h⟩

end Cursor

end LuaIndex
