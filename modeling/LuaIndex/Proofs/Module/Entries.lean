import LuaIndex.Proofs.Module.Comments
import LuaIndex.Proofs.Module.Definitions
import LuaIndex.Proofs.Source.Tags

namespace LuaIndex

/-- The first word of a text ends where its first white space is. -/
theorem Text.head?_words {w r : Text} (hne : w ≠ []) (hw : ∀ c ∈ w, isBlank c = false)
    (hr : ∀ c, r.head? = some c → isBlank c = true) : (words (w ++ r)).head? = some w := by
  induction w with
  | nil => exact absurd rfl hne
  | cons c w ih =>
    have hc : isBlank c = false := hw c List.mem_cons_self
    rw [List.cons_append]
    unfold words
    rw [if_neg (by simp [hc])]
    cases w with
    | nil =>
      rw [List.nil_append]
      cases r with
      | nil => rfl
      | cons d r =>
        have hd : isBlank d = true := hr d rfl
        cases words (d :: r) with
        | nil => rfl
        | cons v vs =>
          dsimp only
          rw [if_pos hd]
          rfl
    | cons d w =>
      have hd : isBlank d = false := hw d (by simp)
      have hfirst := ih (List.cons_ne_nil d w) fun e he => hw e (List.mem_cons_of_mem c he)
      obtain ⟨vs, hvs⟩ := List.head?_eq_some_iff.mp hfirst
      rw [List.cons_append] at hvs ⊢
      rw [hvs]
      dsimp only
      rw [if_neg (by simp [hd])]
      rfl

namespace DocTag

theorem Field.before_ne_nil (f : Field) (t : Text) : f.before t ≠ [] := by
  simp [before, f.word_ne]

theorem endsSolid_body (line : Text) : Text.EndsSolid (body line) := by
  have hdashes := (Text.endsSolid_strip line).dropWhile fun c => decide (c = '-')
  exact hdashes.dropWhile Text.isBlank

/-- The comment of the line is a tag and, at once or after white space, a text. -/
structure Tagged (tag gap text line : Text) : Prop where
  split : body line = tag ++ (gap ++ text)
  blank : ∀ c ∈ gap, Text.isBlank c = true

/-- The line documents a parameter, with `gap` between the tag and the text. -/
def DocumentsParam (line gap name : Text) (info : TagInfo) : Prop :=
  ∃ x : NamedText, Tagged "@param".toList gap x.text line ∧ name = x.name.word ∧
    info = ⟨x.typed.type.word, x.typed.detail, x.text⟩

/-- The line documents a returned value, with `gap` between the tag and the text. -/
def DocumentsReturn (line gap : Text) (info : TagInfo) : Prop :=
  ∃ x : TypedText, Tagged "@return".toList gap x.text line ∧ info = ⟨x.type.word, x.detail, x.text⟩

variable {tag gap text line : Text}

/-- What follows a tag is white space and then what stripping leaves of it. -/
theorem exists_tagged_iff {f : Field} {t : Text} :
    (∃ gap, Tagged tag gap (f.before t) line) ↔
      ∃ rest, body line = tag ++ rest ∧ Text.strip rest = f.before t := by
  have hbody := endsSolid_body line
  constructor
  · rintro ⟨gap, hsplit, hblank⟩
    refine ⟨gap ++ f.before t, hsplit, ?_⟩
    rw [hsplit, ← List.append_assoc] at hbody
    exact Text.strip_append_of_solid hblank (f.head?_before t) (hbody.of_append (f.before_ne_nil t))
  · rintro ⟨rest, hsplit, hstrip⟩
    have hne : rest ≠ [] := by
      rintro rfl
      exact f.before_ne_nil t hstrip.symm
    rw [hsplit] at hbody
    have hend := (hbody.of_append hne).dropWhile Text.isBlank
    have hrest : rest.takeWhile Text.isBlank ++ f.before t = rest := by
      rw [← hstrip, Text.strip, Text.stripLeft, Text.stripRight_of_endsSolid hend]
      exact List.takeWhile_append_dropWhile
    exact ⟨rest.takeWhile Text.isBlank, by rw [hrest, hsplit], fun c hc => List.mem_takeWhile_imp hc⟩

/-- The first word of a tagged comment is the tag, or the tag with the first field on it. -/
theorem Tagged.head?_words {f : Field} {t : Text} (h : Tagged tag gap (f.before t) line) (hne : tag ≠ [])
    (htag : ∀ c ∈ tag, Text.isBlank c = false) :
    ((Text.words (body line)).head? = some tag ↔ gap ≠ []) ∧
      (gap = [] → (Text.words (body line)).head? = some (tag ++ f.word)) := by
  have hapart : gap ≠ [] → (Text.words (body line)).head? = some tag := by
    intro hgap
    obtain ⟨d, g, rfl⟩ := List.exists_cons_of_ne_nil hgap
    rw [h.split]
    refine Text.head?_words hne htag fun c hc => ?_
    obtain rfl : d = c := by simpa using hc
    exact h.blank d List.mem_cons_self
  have hjoined : gap = [] → (Text.words (body line)).head? = some (tag ++ f.word) := by
    rintro rfl
    have hword : ∀ c ∈ tag ++ f.word, Text.isBlank c = false := by
      intro c hc
      rcases List.mem_append.mp hc with hc | hc
      · exact htag c hc
      · exact f.not_isBlank hc
    have hsplit : body line = (tag ++ f.word) ++ (f.gap ++ t) := by
      rw [h.split, Field.before]
      simp
    rw [hsplit]
    refine Text.head?_words (by simp [hne]) hword fun c hc => ?_
    obtain ⟨d, g, hg⟩ := List.exists_cons_of_ne_nil f.gap_ne
    rw [hg] at hc
    obtain rfl : d = c := by simpa using hc
    exact f.blank d (by simp [hg])
  refine ⟨⟨?_, hapart⟩, hjoined⟩
  rintro hfirst rfl
  rw [hjoined rfl] at hfirst
  have hword : f.word = [] := by simpa using hfirst
  exact f.word_ne hword

/-- A comment that means something with a tag in front starts with that tag. -/
theorem exists_body_of_classify? {meaning : DocTag} (h : classify? line = some meaning) :
    match meaning with
    | .param _ _ => ∃ rest, body line = "@param".toList ++ rest
    | .returned _ => ∃ rest, body line = "@return".toList ++ rest
    | .description _ => True := by
  unfold classify? at h
  split at h
  case h_1 rest hreturn =>
    unfold readReturn? at h
    split at h
    case h_2 => cases h
    case h_1 =>
      obtain rfl := Option.some.inj h
      exact ⟨rest, Text.after_eq_some_iff.mp hreturn⟩
  case h_2 =>
    split at h
    case h_1 rest hparam =>
      unfold readParam? at h
      split at h
      case h_2 => cases h
      case h_1 =>
        split at h
        case h_2 => cases h
        case h_1 =>
          obtain rfl := Option.some.inj h
          exact ⟨rest, Text.after_eq_some_iff.mp hparam⟩
    case h_2 =>
      obtain rfl := Option.some.inj h
      trivial

theorem classify?_eq_param_iff {name : Text} {info : TagInfo} (hline : '\n' ∉ line) :
    classify? line = some (.param name info) ↔ ∃ gap, DocumentsParam line gap name info := by
  constructor
  · intro h
    obtain ⟨rest, hrest⟩ := exists_body_of_classify? h
    have hfeed := not_mem_strip_of_body hline hrest
    rw [classify?_of_param hrest] at h
    obtain ⟨x, hx, hmeaning⟩ := (readParam?_eq_some_iff hfeed (Text.endsSolid_strip rest)).mp h
    obtain ⟨rfl, rfl⟩ := DocTag.param.inj hmeaning
    obtain ⟨gap, htagged⟩ := exists_tagged_iff.mpr ⟨rest, hrest, hx.symm⟩
    exact ⟨gap, x, htagged, rfl, by rw [hx]⟩
  · rintro ⟨gap, x, htagged, rfl, rfl⟩
    obtain ⟨rest, hrest, hx⟩ := exists_tagged_iff.mp ⟨gap, htagged⟩
    have hfeed := not_mem_strip_of_body hline hrest
    rw [classify?_of_param hrest]
    exact (readParam?_eq_some_iff hfeed (Text.endsSolid_strip rest)).mpr ⟨x, hx.symm, by rw [hx]; rfl⟩

theorem classify?_eq_returned_iff {info : TagInfo} (hline : '\n' ∉ line) :
    classify? line = some (.returned info) ↔ ∃ gap, DocumentsReturn line gap info := by
  constructor
  · intro h
    obtain ⟨rest, hrest⟩ := exists_body_of_classify? h
    have hfeed := not_mem_strip_of_body hline hrest
    rw [classify?_of_return hrest] at h
    obtain ⟨x, hx, hmeaning⟩ := (readReturn?_eq_some_iff hfeed (Text.endsSolid_strip rest)).mp h
    obtain rfl := DocTag.returned.inj hmeaning
    obtain ⟨gap, htagged⟩ := exists_tagged_iff.mpr ⟨rest, hrest, hx.symm⟩
    exact ⟨gap, x, htagged, by rw [hx]⟩
  · rintro ⟨gap, x, htagged, rfl⟩
    obtain ⟨rest, hrest, hx⟩ := exists_tagged_iff.mp ⟨gap, htagged⟩
    have hfeed := not_mem_strip_of_body hline hrest
    rw [classify?_of_return hrest]
    exact (readReturn?_eq_some_iff hfeed (Text.endsSolid_strip rest)).mpr ⟨x, hx.symm, by rw [hx]; rfl⟩

theorem not_isBlank_tag {c : Char} (hc : c ∈ "@param".toList ++ "@return".toList) :
    Text.isBlank c = false := by
  have hall : ("@param".toList ++ "@return".toList).all (fun c => !Text.isBlank c) = true := by
    decide +kernel
  simpa using List.all_eq_true.mp hall c hc

theorem DocumentsParam.head?_words {name : Text} {info : TagInfo} (h : DocumentsParam line gap name info) :
    ((Text.words (body line)).head? = some "@param".toList ↔ gap ≠ []) ∧
      (gap = [] → (Text.words (body line)).head? = some ("@param".toList ++ name)) := by
  obtain ⟨x, htagged, rfl, -⟩ := h
  exact htagged.head?_words (by decide) fun c hc => not_isBlank_tag (List.mem_append_left _ hc)

theorem DocumentsReturn.head?_words {info : TagInfo} (h : DocumentsReturn line gap info) :
    ((Text.words (body line)).head? = some "@return".toList ↔ gap ≠ []) ∧
      (gap = [] → (Text.words (body line)).head? = some ("@return".toList ++ info.type)) := by
  obtain ⟨x, htagged, rfl⟩ := h
  exact htagged.head?_words (by decide) fun c hc => not_isBlank_tag (List.mem_append_right _ hc)

end DocTag

namespace DocComment

/-- The comment of a definition is what its last lines say, as many as may be looked at. -/
theorem exists_collect_eq_ofLines (ls : List Text) (index limit : Nat) :
    ∃ block, IsAbove ls index block ∧
      collect limit (ls.take index).reverse = ofLines (block.drop (block.length - limit)) := by
  refine ⟨_, isAbove_takeWhile ls index, ?_⟩
  rw [collect, walkUp_eq_append, append_empty, List.reverse_take, List.length_reverse]

theorem IsAbove.subset {ls block : List Text} {index : Nat} (h : IsAbove ls index block) : block ⊆ ls := by
  obtain ⟨before, hsplit, -⟩ := h.longest
  intro l hl
  have htake : l ∈ ls.take index := by
    rw [hsplit]
    exact List.mem_append_right before hl
  exact List.mem_of_mem_take htake

variable {ls : List Text}

theorem mem_returns_ofLines_iff (hfeed : ∀ l ∈ ls, '\n' ∉ l) {info : TagInfo} :
    info ∈ (ofLines ls).returns ↔ ∃ l ∈ ls, ∃ gap, DocTag.DocumentsReturn l gap info := by
  have hmem : info ∈ (ofLines ls).returns ↔ ∃ l ∈ ls, DocTag.classify? l = some (.returned info) := by
    have hreturned : ∀ tag : DocTag, tag.returned? = some info ↔ tag = .returned info := by
      intro tag
      cases tag <;> simp [DocTag.returned?]
    simp only [ofLines, List.mem_filterMap, hreturned]
    constructor
    · rintro ⟨tag, ⟨l, hl, hc⟩, rfl⟩
      exact ⟨l, hl, hc⟩
    · rintro ⟨l, hl, hc⟩
      exact ⟨_, ⟨l, hl, hc⟩, rfl⟩
  rw [hmem]
  constructor
  · rintro ⟨l, hl, h⟩
    exact ⟨l, hl, (DocTag.classify?_eq_returned_iff (hfeed l hl)).mp h⟩
  · rintro ⟨l, hl, h⟩
    exact ⟨l, hl, (DocTag.classify?_eq_returned_iff (hfeed l hl)).mpr h⟩

/-- The parameters that lines document, line by line. -/
theorem params_ofLines (ls : List Text) :
    (ofLines ls).params = ls.filterMap fun l => (DocTag.classify? l).bind DocTag.param? := by
  rw [ofLines, List.filterMap_filterMap]

theorem bind_param?_eq_some_iff {l : Text} (hfeed : '\n' ∉ l) {name : Text} {info : TagInfo} :
    (DocTag.classify? l).bind DocTag.param? = some (name, info) ↔
      ∃ gap, DocTag.DocumentsParam l gap name info := by
  have hparam : ∀ tag : DocTag, tag.param? = some (name, info) ↔ tag = .param name info := by
    intro tag
    cases tag <;> simp [DocTag.param?]
  simp only [Option.bind_eq_some_iff, hparam, exists_eq_right]
  exact DocTag.classify?_eq_param_iff hfeed

/-- A result that no later one is like comes from an element whose followers give no such result. -/
theorem exists_filterMap_eq_iff {α β : Type} {f : α → Option β} {ls : List α} {b : β} {P : β → Prop} :
    (∃ before after, ls.filterMap f = before ++ b :: after ∧ ∀ e ∈ after, P e) ↔
      ∃ earlier l later, ls = earlier ++ l :: later ∧ f l = some b ∧
        ∀ l' ∈ later, ∀ e, f l' = some e → P e := by
  constructor
  · rintro ⟨before, after, hsplit, hafter⟩
    obtain ⟨front, back, rfl, -, hback⟩ := List.filterMap_eq_append_iff.mp hsplit
    obtain ⟨skipped, l, later, rfl, -, hl, hlater⟩ := List.filterMap_eq_cons_iff.mp hback
    refine ⟨front ++ skipped, l, later, by simp, hl, ?_⟩
    intro l' hl' e he
    apply hafter e
    rw [← hlater]
    exact List.mem_filterMap.mpr ⟨l', hl', he⟩
  · rintro ⟨earlier, l, later, rfl, hl, hlater⟩
    refine ⟨earlier.filterMap f, later.filterMap f, ?_, ?_⟩
    · rw [List.filterMap_append, List.filterMap_cons_some hl]
    · intro e he
      obtain ⟨l', hl', hf⟩ := List.mem_filterMap.mp he
      exact hlater l' hl' e hf

/-- A parameter has in the table what the last line that documents it says. -/
theorem mem_table_params_iff (hfeed : ∀ l ∈ ls, '\n' ∉ l) {name : Text} {info : TagInfo} :
    (name, info) ∈ Table.ofList (ofLines ls).params ↔
      ∃ earlier l later, ls = earlier ++ l :: later ∧ (∃ gap, DocTag.DocumentsParam l gap name info) ∧
        ∀ l' ∈ later, ∀ gap info', ¬ DocTag.DocumentsParam l' gap name info' := by
  rw [← Table.get?_eq_some_iff_mem (Table.nodup_keys_ofList _), Table.get?_ofList_eq_some_iff,
    params_ofLines, exists_filterMap_eq_iff]
  constructor
  · rintro ⟨earlier, l, later, rfl, hl, hlater⟩
    refine ⟨earlier, l, later, rfl, (bind_param?_eq_some_iff (hfeed l (by simp))).mp hl, ?_⟩
    intro l' hl' gap info' hdocuments
    have hentry := (bind_param?_eq_some_iff (hfeed l' (by simp [hl']))).mpr ⟨gap, hdocuments⟩
    exact hlater l' hl' (name, info') hentry rfl
  · rintro ⟨earlier, l, later, rfl, hl, hlater⟩
    refine ⟨earlier, l, later, rfl, (bind_param?_eq_some_iff (hfeed l (by simp))).mpr hl, ?_⟩
    rintro l' hl' ⟨key, info'⟩ hentry rfl
    obtain ⟨gap, hdocuments⟩ := (bind_param?_eq_some_iff (hfeed l' (by simp [hl']))).mp hentry
    exact hlater l' hl' gap info' hdocuments

end DocComment

namespace ModuleInfo

open DocTag DocComment

/-- The parameters and returned values in the function table come from the lines of the comment above the
definition that are looked at, each from one that starts with the tag. The first word of such a line is the tag
exactly if white space follows the tag. Otherwise it is the tag with the name or the type on it. -/
theorem entries_tagged {lookback : Lookback} {path source name : Text} {m : ModuleInfo} {f : FunctionInfo}
    (hm : scan? lookback path source = some m) (hf : (name, f) ∈ m.functions) :
    ∃ index span block, LastDefined (Text.lines source) name index span ∧
      IsAbove (Text.lines source) index block ∧
      let ls := block.drop (block.length - lookback.limit)
      (∀ n info, (n, info) ∈ f.params ↔
        ∃ earlier l later, ls = earlier ++ l :: later ∧ (∃ gap, DocumentsParam l gap n info) ∧
          ∀ l' ∈ later, ∀ gap info', ¬ DocumentsParam l' gap n info') ∧
      (∀ info, info ∈ f.returns ↔ ∃ l ∈ ls, ∃ gap, DocumentsReturn l gap info) ∧
      (∀ l gap n info, DocumentsParam l gap n info →
        ((Text.words (body l)).head? = some "@param".toList ↔ gap ≠ []) ∧
        (gap = [] → (Text.words (body l)).head? = some ("@param".toList ++ n))) ∧
      ∀ l gap info, DocumentsReturn l gap info →
        ((Text.words (body l)).head? = some "@return".toList ↔ gap ≠ []) ∧
        (gap = [] → (Text.words (body l)).head? = some ("@return".toList ++ info.type)) := by
  obtain ⟨index, span, hlast, rfl⟩ := exists_function_of_scan? hm hf
  obtain ⟨block, habove, hcollect⟩ := exists_collect_eq_ofLines (Text.lines source) index lookback.limit
  refine ⟨index, span, block, hlast, habove, ?_⟩
  intro ls
  have hfeed : ∀ l ∈ ls, '\n' ∉ l := by
    intro l hl
    exact Text.not_mem_lines (habove.subset (List.mem_of_mem_drop hl))
  refine ⟨?_, ?_, fun l gap n info h => h.head?_words, fun l gap info h => h.head?_words⟩
  · intro n info
    simp only [function, hcollect]
    exact mem_table_params_iff hfeed
  · intro info
    simp only [function, hcollect]
    exact mem_returns_ofLines_iff hfeed

/-- A source with a parameter tag and, on the line below it, a longer word that starts with a tag. -/
def gluedSource : Text :=
  "module('A')\n--@param n number count\n--@returns number the sum\nfunction f()\nend".toList

/-- Its function. -/
def gluedFunction : FunctionInfo where
  name := ['f']
  title := "function f(n: number)\n\t->1. s\t-- number the sum".toList
  detail := []
  location := ⟨"x.lua".toList, .onLine 3 9 10⟩
  params := [(['n'], ⟨"number".toList, "count".toList, "n number count".toList⟩)]
  returns := [⟨['s'], "number the sum".toList, "s number the sum".toList⟩]

theorem gluedFunction_tagged :
    scan? (.lines 10) "x.lua".toList gluedSource =
        some ⟨['A'], "x.lua".toList, [(['f'], gluedFunction)]⟩ ∧
      ∃ index block, IsAbove (Text.lines gluedSource) index block ∧
        ∃ l ∈ block, ∃ gap, DocumentsReturn l gap ⟨['s'], "number the sum".toList, "s number the sum".toList⟩ := by
  have hscan : scan? (.lines 10) "x.lua".toList gluedSource =
      some ⟨['A'], "x.lua".toList, [(['f'], gluedFunction)]⟩ := by
    decide +kernel
  obtain ⟨index, span, block, -, habove, -, hreturns, -⟩ :=
    entries_tagged hscan (List.mem_singleton.mpr rfl)
  obtain ⟨l, hl, htagged⟩ := (hreturns _).mp (List.mem_singleton.mpr rfl)
  exact ⟨hscan, index, block, habove, l, List.mem_of_mem_drop hl, htagged⟩

/-- The longer word gives the function a returned value, although no line has the tag as its first word. -/
theorem gluedWord_returned :
    scan? (.lines 10) "x.lua".toList gluedSource =
        some ⟨['A'], "x.lua".toList, [(['f'], gluedFunction)]⟩ ∧
      gluedFunction.returns ≠ [] ∧
      ∀ l ∈ Text.lines gluedSource, (Text.words (body l)).head? ≠ some "@return".toList := by
  decide +kernel

end ModuleInfo

end LuaIndex
