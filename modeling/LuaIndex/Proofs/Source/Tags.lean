import LuaIndex.Source.DocTag
import LuaIndex.Proofs.Source.Patterns
import Mathlib.Data.List.Basic

namespace LuaIndex

namespace Text

/-- The text does not end with white space. -/
def EndsSolid (t : Text) : Prop :=
  ∀ c, t.getLast? = some c → isBlank c = false

theorem EndsSolid.of_append {p t : Text} (h : EndsSolid (p ++ t)) (ht : t ≠ []) : EndsSolid t := by
  intro c hc
  apply h c
  rw [List.getLast?_append_of_ne_nil p ht]
  exact hc

theorem EndsSolid.append {t : Text} (h : EndsSolid t) (ht : t ≠ []) (p : Text) : EndsSolid (p ++ t) := by
  intro c hc
  rw [List.getLast?_append_of_ne_nil p ht] at hc
  exact h c hc

theorem EndsSolid.dropWhile {t : Text} (h : EndsSolid t) (p : Char → Bool) :
    EndsSolid (t.dropWhile p) := by
  by_cases hrest : t.dropWhile p = []
  · intro c hc
    rw [hrest] at hc
    cases hc
  · have hsplit : t.takeWhile p ++ t.dropWhile p = t := List.takeWhile_append_dropWhile
    rw [← hsplit] at h
    exact h.of_append hrest

theorem endsSolid_stripRight (t : Text) : EndsSolid (stripRight t) := by
  intro c hc
  rw [stripRight, List.getLast?_reverse] at hc
  have hfirst := List.head?_dropWhile_not isBlank t.reverse
  rw [hc] at hfirst
  simpa using hfirst

theorem endsSolid_strip (t : Text) : EndsSolid (strip t) :=
  endsSolid_stripRight (stripLeft t)

/-- Stripping the end takes the white space after a text that does not end with any. -/
theorem stripRight_append_of_endsSolid {t gap : Text} (h : EndsSolid t)
    (hgap : ∀ c ∈ gap, isBlank c = true) : stripRight (t ++ gap) = t := by
  have hfirst : ∀ c, t.reverse.head? = some c → isBlank c = false := by
    intro c hc
    rw [List.head?_reverse] at hc
    exact h c hc
  have hblank : ∀ c ∈ gap.reverse, isBlank c = true := by
    intro c hc
    exact hgap c (List.mem_reverse.mp hc)
  rw [stripRight, List.reverse_append, dropWhile_append_of_stop hblank hfirst, List.reverse_reverse]

theorem stripRight_of_endsSolid {t : Text} (h : EndsSolid t) : stripRight t = t := by
  have hempty := stripRight_append_of_endsSolid h (List.forall_mem_nil _)
  rwa [List.append_nil] at hempty

/-- White space before a text that neither starts nor ends with any is all that stripping takes. -/
theorem strip_append_of_solid {gap t : Text} (hgap : ∀ c ∈ gap, isBlank c = true)
    (hstart : ∀ c, t.head? = some c → isBlank c = false) (hend : EndsSolid t) : strip (gap ++ t) = t := by
  rw [strip, stripLeft, dropWhile_append_of_stop hgap hstart, stripRight_of_endsSolid hend]

theorem mem_of_mem_strip {t : Text} {c : Char} (h : c ∈ strip t) : c ∈ t := by
  have hleft : c ∈ stripLeft t := by
    have hreverse := (List.dropWhile_sublist isBlank).subset (List.mem_reverse.mp h)
    exact List.mem_reverse.mp hreverse
  exact (List.dropWhile_sublist isBlank).subset hleft

end Text

namespace DocTag

/-- No type has white space in it. -/
theorem isTypeChar_of_isBlank {c : Char} (h : Text.isBlank c = true) : isTypeChar c = false :=
  Text.eq_false_of_isBlank (by decide +kernel) h

/-- A run of type characters and the white space after it. -/
@[ext]
structure Field where
  word : Text
  gap : Text
  word_ne : word ≠ []
  typed : ∀ c ∈ word, isTypeChar c = true
  gap_ne : gap ≠ []
  blank : ∀ c ∈ gap, Text.isBlank c = true

/-- A type and the detail after it, which does not start with white space. -/
@[ext]
structure TypedText where
  type : Field
  detail : Text
  detail_ne : detail ≠ []
  detail_solid : ∀ c, detail.head? = some c → Text.isBlank c = false

/-- A name before a type and its detail. -/
@[ext]
structure NamedText where
  name : Field
  typed : TypedText

def Field.before (f : Field) (t : Text) : Text :=
  f.word ++ (f.gap ++ t)

def TypedText.text (x : TypedText) : Text :=
  x.type.before x.detail

def NamedText.text (x : NamedText) : Text :=
  x.name.before x.typed.text

theorem Field.not_isBlank (f : Field) {c : Char} (hc : c ∈ f.word) : Text.isBlank c = false := by
  by_contra hblank
  have htyped := f.typed c hc
  rw [isTypeChar_of_isBlank (by simpa using hblank)] at htyped
  cases htyped

theorem Field.head?_before (f : Field) (t : Text) :
    ∀ c, (f.before t).head? = some c → Text.isBlank c = false := by
  obtain ⟨d, w, hw⟩ := List.exists_cons_of_ne_nil f.word_ne
  intro c hc
  rw [before, hw] at hc
  obtain rfl : d = c := by simpa using hc
  exact f.not_isBlank (by simp [hw])

theorem Field.head?_gap (f : Field) (t : Text) :
    ∀ c, (f.gap ++ t).head? = some c → isTypeChar c = false := by
  obtain ⟨d, g, hg⟩ := List.exists_cons_of_ne_nil f.gap_ne
  intro c hc
  rw [hg] at hc
  obtain rfl : d = c := by simpa using hc
  exact isTypeChar_of_isBlank (f.blank d (by simp [hg]))

/-- A field is read with what follows it. -/
theorem field?_before (f : Field) {t : Text} (ht : ∀ c, t.head? = some c → Text.isBlank c = false) :
    field? (f.before t) = some (f.word, t) := by
  obtain ⟨d, g, hg⟩ := List.exists_cons_of_ne_nil f.gap_ne
  have hblank : ∀ c ∈ d :: g, Text.isBlank c = true := by
    rw [← hg]
    exact f.blank
  have hword := Text.takeWhile_append_of_stop f.typed (f.head?_gap t)
  have hrest := Text.dropWhile_append_of_stop f.typed (f.head?_gap t)
  have htail : (g ++ t).dropWhile Text.isBlank = t :=
    Text.dropWhile_append_of_stop (fun c hc => hblank c (List.mem_cons_of_mem d hc)) ht
  unfold field? Field.before
  rw [hword, hrest, hg]
  simp only [List.cons_append, List.isEmpty_eq_false_iff.mpr f.word_ne,
    hblank d List.mem_cons_self, Bool.not_true, Bool.or_self, Bool.false_eq_true, if_false, htail]

theorem field?_eq_some_iff {t word rest : Text} :
    field? t = some (word, rest) ↔
      ∃ f : Field, f.word = word ∧ t = f.before rest ∧
        ∀ c, rest.head? = some c → Text.isBlank c = false := by
  constructor
  · intro h
    have hword : t.takeWhile isTypeChar ++ t.dropWhile isTypeChar = t := List.takeWhile_append_dropWhile
    unfold field? at h
    dsimp only at h
    split at h
    case h_1 => cases h
    case h_2 c tail hc =>
      split at h
      case isTrue => cases h
      case isFalse hnot =>
        obtain ⟨rfl, rfl⟩ := Prod.mk.inj (Option.some.inj h)
        simp only [Bool.or_eq_true, List.isEmpty_iff, Bool.not_eq_true', not_or, Bool.not_eq_false] at hnot
        have hgap : tail.takeWhile Text.isBlank ++ tail.dropWhile Text.isBlank = tail :=
          List.takeWhile_append_dropWhile
        refine ⟨⟨t.takeWhile isTypeChar, c :: tail.takeWhile Text.isBlank, hnot.1,
          fun d hd => List.mem_takeWhile_imp hd, List.cons_ne_nil _ _, ?_⟩, rfl, ?_, ?_⟩
        · intro d hd
          rcases List.mem_cons.mp hd with rfl | hd
          · exact hnot.2
          · exact List.mem_takeWhile_imp hd
        · rw [Field.before, List.cons_append, hgap, ← hc, hword]
        · intro d hd
          have hfirst := List.head?_dropWhile_not Text.isBlank tail
          rw [hd] at hfirst
          simpa using hfirst
  · rintro ⟨f, rfl, rfl, hrest⟩
    exact field?_before f hrest

/-- A field and what follows it are told apart in one way only. -/
theorem Field.before_injective {f f' : Field} {t t' : Text} (h : f.before t = f'.before t')
    (ht : ∀ c, t.head? = some c → Text.isBlank c = false)
    (ht' : ∀ c, t'.head? = some c → Text.isBlank c = false) : f = f' ∧ t = t' := by
  have hread := field?_before f ht
  rw [h, field?_before f' ht'] at hread
  obtain ⟨hword, rfl⟩ := Prod.mk.inj (Option.some.inj hread)
  rw [before, before, hword] at h
  have hgap := List.append_cancel_right (List.append_cancel_left h)
  exact ⟨Field.ext hword.symm hgap, rfl⟩

theorem TypedText.text_injective : Function.Injective TypedText.text := by
  intro x y h
  obtain ⟨htype, hdetail⟩ := Field.before_injective h x.detail_solid y.detail_solid
  exact TypedText.ext htype hdetail

theorem NamedText.text_injective : Function.Injective NamedText.text := by
  intro x y h
  obtain ⟨hname, htyped⟩ := Field.before_injective h (x.typed.type.head?_before x.typed.detail)
    (y.typed.type.head?_before y.typed.detail)
  exact NamedText.ext hname (TypedText.text_injective htyped)

/-- What follows a field in a text that does not end with white space is not empty. -/
theorem Field.ne_nil_of_endsSolid {f : Field} {t : Text} (h : Text.EndsSolid (f.before t)) : t ≠ [] := by
  rintro rfl
  have hgap : Text.EndsSolid f.gap := by
    rw [before, List.append_nil] at h
    exact h.of_append f.gap_ne
  have hsolid := hgap _ (List.getLast?_eq_some_getLast f.gap_ne)
  rw [f.blank _ (List.getLast_mem f.gap_ne)] at hsolid
  cases hsolid

theorem Field.endsSolid_of_before {f : Field} {t : Text} (h : Text.EndsSolid (f.before t)) :
    Text.EndsSolid t := by
  have hne := f.ne_nil_of_endsSolid h
  rw [before, ← List.append_assoc] at h
  exact h.of_append hne

theorem firstLine_of_not_mem {t : Text} (h : '\n' ∉ t) : firstLine t = t := by
  rw [firstLine, List.takeWhile_eq_self_iff]
  intro c hc
  have hne : c ≠ '\n' := fun he => h (he ▸ hc)
  simpa using hne

variable {text : Text} {tag : DocTag}

theorem readReturn?_eq_some_iff (hfeed : '\n' ∉ text) (hend : Text.EndsSolid text) :
    readReturn? text = some tag ↔
      ∃ x : TypedText, x.text = text ∧ tag = .returned ⟨x.type.word, x.detail, text⟩ := by
  constructor
  · intro h
    unfold readReturn? at h
    split at h
    case h_2 => cases h
    case h_1 type rest hread =>
      obtain ⟨f, rfl, rfl, hrest⟩ := field?_eq_some_iff.mp hread
      have hdetail : '\n' ∉ rest := fun hmem => hfeed (by simp [Field.before, hmem])
      rw [firstLine_of_not_mem hdetail] at h
      exact ⟨⟨f, rest, f.ne_nil_of_endsSolid hend, hrest⟩, rfl, (Option.some.inj h).symm⟩
  · rintro ⟨x, rfl, rfl⟩
    have hread : field? x.text = some (x.type.word, x.detail) := field?_before x.type x.detail_solid
    have hdetail : '\n' ∉ x.detail := fun hmem => hfeed (by simp [TypedText.text, Field.before, hmem])
    unfold readReturn?
    rw [hread]
    simp only [firstLine_of_not_mem hdetail]

theorem readParam?_eq_some_iff (hfeed : '\n' ∉ text) (hend : Text.EndsSolid text) :
    readParam? text = some tag ↔
      ∃ x : NamedText, x.text = text ∧
        tag = .param x.name.word ⟨x.typed.type.word, x.typed.detail, text⟩ := by
  constructor
  · intro h
    unfold readParam? at h
    split at h
    case h_2 => cases h
    case h_1 name rest hname =>
      split at h
      case h_2 => cases h
      case h_1 type rest' htype =>
        obtain ⟨f, rfl, rfl, -⟩ := field?_eq_some_iff.mp hname
        obtain ⟨g, rfl, rfl, hrest⟩ := field?_eq_some_iff.mp htype
        have hdetail : '\n' ∉ rest' := fun hmem => hfeed (by simp [Field.before, hmem])
        rw [firstLine_of_not_mem hdetail] at h
        have hne := g.ne_nil_of_endsSolid (f.endsSolid_of_before hend)
        exact ⟨⟨f, ⟨g, rest', hne, hrest⟩⟩, rfl, (Option.some.inj h).symm⟩
  · rintro ⟨x, rfl, rfl⟩
    have hname : field? x.text = some (x.name.word, x.typed.text) :=
      field?_before x.name (x.typed.type.head?_before x.typed.detail)
    have htype : field? x.typed.text = some (x.typed.type.word, x.typed.detail) :=
      field?_before x.typed.type x.typed.detail_solid
    have hdetail : '\n' ∉ x.typed.detail := by
      intro hmem
      exact hfeed (by simp [NamedText.text, TypedText.text, Field.before, hmem])
    unfold readParam?
    rw [hname]
    simp only [htype, firstLine_of_not_mem hdetail]

theorem not_mem_strip_of_body {line rest w : Text} (hline : '\n' ∉ line) (h : body line = w ++ rest) :
    '\n' ∉ Text.strip rest := by
  intro hmem
  have hbody : '\n' ∈ body line := by
    rw [h]
    exact List.mem_append_right w (Text.mem_of_mem_strip hmem)
  have hdashes := (List.dropWhile_sublist Text.isBlank).subset hbody
  exact hline (Text.mem_of_mem_strip ((List.dropWhile_sublist _).subset hdashes))

theorem classify?_of_param {line rest : Text} (h : body line = "@param".toList ++ rest) :
    classify? line = readParam? (Text.strip rest) := by
  have hparam : Text.after "@param".toList (body line) = some rest := Text.after_eq_some_iff.mpr h
  have hreturn : Text.after "@return".toList (body line) = none := by
    rw [h]
    rfl
  rw [classify?, hreturn]
  simp only [hparam]

theorem classify?_of_return {line rest : Text} (h : body line = "@return".toList ++ rest) :
    classify? line = readReturn? (Text.strip rest) := by
  have hreturn : Text.after "@return".toList (body line) = some rest := Text.after_eq_some_iff.mpr h
  rw [classify?, hreturn]

/-- A tag is accepted exactly if what follows it, freed from white space at its ends, is a name, a type and a
detail, or for a returned value a type and a detail. The parts that are told apart are the only ones. -/
theorem classify?_tagged (line : Text) (hline : '\n' ∉ line) :
    (∀ rest, body line = "@param".toList ++ rest → ∀ tag, classify? line = some tag ↔
      ∃ x : NamedText, x.text = Text.strip rest ∧
        tag = .param x.name.word ⟨x.typed.type.word, x.typed.detail, Text.strip rest⟩) ∧
    (∀ rest, body line = "@return".toList ++ rest → ∀ tag, classify? line = some tag ↔
      ∃ x : TypedText, x.text = Text.strip rest ∧
        tag = .returned ⟨x.type.word, x.detail, Text.strip rest⟩) ∧
    Function.Injective NamedText.text ∧ Function.Injective TypedText.text := by
  refine ⟨?_, ?_, NamedText.text_injective, TypedText.text_injective⟩
  · intro rest hrest tag
    rw [classify?_of_param hrest]
    exact readParam?_eq_some_iff (not_mem_strip_of_body hline hrest) (Text.endsSolid_strip rest)
  · intro rest hrest tag
    rw [classify?_of_return hrest]
    exact readReturn?_eq_some_iff (not_mem_strip_of_body hline hrest) (Text.endsSolid_strip rest)

/-- A tag with white space of several kinds, and a digit of another script in the name. -/
def spacedParam : Text :=
  "\t--- @param  n\u0663 Game.Config \t the  count ".toList

/-- Its parts. -/
def spacedParts : NamedText where
  name := ⟨"n\u0663".toList, [' '], by decide, List.all_eq_true.mp (by decide +kernel), by decide,
    List.all_eq_true.mp (by decide +kernel)⟩
  typed :=
    { type := ⟨"Game.Config".toList, [' ', '\t', ' '], by decide, List.all_eq_true.mp (by decide +kernel),
        by decide, List.all_eq_true.mp (by decide +kernel)⟩
      detail := "the  count".toList
      detail_ne := by decide
      detail_solid := by
        intro c hc
        obtain rfl : 't' = c := Option.some.inj hc
        decide }

theorem spacedParam_split :
    '\n' ∉ spacedParam ∧
      body spacedParam = "@param".toList ++ "  n\u0663 Game.Config \t the  count".toList ∧
      classify? spacedParam = some (.param "n\u0663".toList
        ⟨"Game.Config".toList, "the  count".toList, "n\u0663 Game.Config \t the  count".toList⟩) := by
  have hline : '\n' ∉ spacedParam := by decide
  have hbody : body spacedParam = "@param".toList ++ "  n\u0663 Game.Config \t the  count".toList := by
    decide +kernel
  have htext : spacedParts.text = Text.strip "  n\u0663 Game.Config \t the  count".toList := by
    decide +kernel
  have hsplit := ((classify?_tagged spacedParam hline).1 _ hbody _).mpr ⟨spacedParts, htext, rfl⟩
  rw [← htext] at hsplit
  exact ⟨hline, hbody, hsplit⟩

end DocTag

end LuaIndex
