import LuaIndex.Command.Request

namespace LuaIndex.Command

namespace Arguments

variable {switches : List Switch}

theorem read?_word {arg : Text} (harg : isOption arg = false) (rest : List Text) :
    read? switches true (arg :: rest) = (read? switches true rest).map fun a => a.addWord arg := by
  have hend : arg ≠ endOfOptions := by
    intro h
    rw [h] at harg
    exact absurd harg (by decide)
  rw [read?, if_neg hend, harg]
  rfl

/-- What is read after an option: its words are among the arguments after it. -/
theorem words_read?_cons {arg : Text} {rest : List Text} {a : Arguments}
    (hoption : isOption arg = true) (h : read? switches true (arg :: rest) = some a) :
    a.words = rest ∨ ∃ b line, line <:+ rest ∧ read? switches true line = some b ∧ a.words = b.words := by
  rw [read?] at h
  split at h
  case isTrue =>
    obtain rfl := Option.some.inj h
    exact Or.inl rfl
  case isFalse =>
    split at h
    case h_1 => cases h
    case h_2 gs ho =>
      obtain ⟨b, hb, rfl⟩ := Option.map_eq_some_iff.mp h
      exact Or.inr ⟨b, rest, List.suffix_refl rest, hb, rfl⟩
    case h_3 gs s ho =>
      split at h
      case h_1 => cases h
      case h_2 value rest =>
        obtain ⟨b, hb, rfl⟩ := Option.map_eq_some_iff.mp h
        exact Or.inr ⟨b, rest, List.suffix_cons value rest, hb, rfl⟩

/-- Words are arguments, in the order given. -/
theorem words_sublist {line : List Text} {a : Arguments} (h : read? switches true line = some a) :
    a.words.Sublist line := by
  -- an option may take the argument after it as its value, so the line gets shorter by one or two
  induction hn : line.length using Nat.strongRecOn generalizing line a with
  | ind n ih =>
    cases line with
    | nil =>
      obtain rfl := Option.some.inj h
      exact List.Sublist.refl []
    | cons arg rest =>
      cases hoption : isOption arg with
      | true =>
        rcases words_read?_cons hoption h with hw | ⟨b, line, hline, hb, hw⟩
        · rw [hw]
          exact List.sublist_cons_self arg rest
        · have hlength := hline.length_le
          rw [hw]
          exact (ih line.length (by simp at hn; omega) hb rfl).trans
            (hline.sublist.trans (List.sublist_cons_self arg rest))
      | false =>
        rw [read?_word hoption] at h
        obtain ⟨b, hb, rfl⟩ := Option.map_eq_some_iff.mp h
        exact (ih rest.length (by simp at hn; omega) hb rfl).cons_cons arg

theorem words_sublist_of_isOption {arg : Text} {rest : List Text} {a : Arguments}
    (hoption : isOption arg = true) (h : read? switches true (arg :: rest) = some a) :
    a.words.Sublist rest := by
  rcases words_read?_cons hoption h with hw | ⟨b, line, hline, hb, hw⟩
  · exact hw.symm ▸ List.Sublist.refl rest
  · rw [hw]
    exact (words_sublist hb).trans hline.sublist

end Arguments

/-- The options of the commands that look something up. -/
def lookupSwitches : List Switch :=
  [rootSwitch, jsonSwitch, helpSwitch]

def jsonOption : Text :=
  "--json".toList

namespace Arguments

theorem read?_json (rest : List Text) :
    read? lookupSwitches true (jsonOption :: rest) =
      (read? lookupSwitches true rest).map fun a => a.addOptions [⟨jsonOption, none⟩] :=
  rfl

/-- Arguments that look like no options are read as words. -/
theorem read?_names {names : List Text} (h : ∀ n ∈ names, isOption n = false) :
    read? lookupSwitches true (names ++ [jsonOption]) = some ⟨[⟨jsonOption, none⟩], names⟩ := by
  induction names with
  | nil => rfl
  | cons n names ih =>
    rw [List.forall_mem_cons] at h
    rw [List.cons_append, read?_word h.1, ih h.2]
    rfl

theorem eq_of_cons_eq_append {α : Type} {x y : α} {l : List α} (h : x :: l = l ++ [y]) : x = y := by
  induction l generalizing x with
  | nil => exact (List.cons.inj h).1
  | cons z l ih =>
    obtain ⟨rfl, h⟩ := List.cons.inj h
    exact ih h

/-- If all that comes before the last option is read as words, none of it looks like an option. -/
theorem isOption_of_words {names : List Text} {a : Arguments}
    (h : read? lookupSwitches true (names ++ [jsonOption]) = some a) (hwords : a.words = names) :
    ∀ n ∈ names, isOption n = false := by
  induction names generalizing a with
  | nil => simp
  | cons n names ih =>
    cases hoption : isOption n with
    | false =>
      rw [List.cons_append, read?_word hoption] at h
      obtain ⟨b, hb, rfl⟩ := Option.map_eq_some_iff.mp h
      exact List.forall_mem_cons.mpr ⟨hoption, ih hb (List.cons.inj hwords).2⟩
    | true =>
      -- the words would be all that follows, so each would be the last option, which is no word
      exfalso
      have hsub := words_sublist_of_isOption hoption h
      rw [hwords] at hsub
      have hall : n :: names = names ++ [jsonOption] := hsub.eq_of_length (by simp)
      rw [List.cons_append, ← hall, eq_of_cons_eq_append hall, read?_json] at h
      obtain ⟨b, hb, rfl⟩ := Option.map_eq_some_iff.mp h
      have hlength := (words_sublist_of_isOption (by decide) hb).length_le
      rw [show b.words = n :: names from hwords, List.length_cons] at hlength
      omega

end Arguments

/-- A request is made of what was read of the line. -/
theorem exists_of_ofCommand {name : String} {switches : List Switch} {rest : List Text} {r : Request}
    (h : Invocation.ofCommand name switches rest = .request r) :
    ∃ a, Arguments.read? switches true rest = some a ∧ Request.ofArguments? name a = some r := by
  unfold Invocation.ofCommand at h
  split at h
  case h_1 => cases h
  case h_2 a ha =>
    split at h
    case isTrue => cases h
    case isFalse =>
      split at h
      case isTrue => cases h
      case isFalse =>
        split at h
        case h_1 => cases h
        case h_2 r' hr =>
          rw [Invocation.request.inj h] at hr
          exact ⟨a, ha, hr⟩

end LuaIndex.Command
