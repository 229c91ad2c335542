import LuaIndex.Module.Scan
import LuaIndex.Proofs.Table.Filled
import Mathlib.Data.List.TakeWhile

namespace LuaIndex

namespace DocTag

def param? : DocTag → Option (Text × TagInfo)
  | .param name info => some (name, info)
  | _ => none

def returned? : DocTag → Option TagInfo
  | .returned info => some info
  | _ => none

def description? : DocTag → Option Text
  | .description detail => some detail
  | _ => none

end DocTag

namespace DocComment

/-- What lines document, read from the top down. A malformed tag has no meaning and is passed over. -/
def ofLines (ls : List Text) : DocComment :=
  let tags := ls.filterMap DocTag.classify?
  ⟨tags.filterMap DocTag.param?, tags.filterMap DocTag.returned?, tags.filterMap DocTag.description?⟩

/-- What two comments document, one above the other. -/
def append (d e : DocComment) : DocComment :=
  ⟨d.params ++ e.params, d.returns ++ e.returns, d.detail ++ e.detail⟩

theorem append_empty (d : DocComment) : d.append empty = d := by
  simp [append, empty]

theorem append_assoc (c d e : DocComment) : (c.append d).append e = c.append (d.append e) := by
  simp [append]

theorem ofLines_append (ls ms : List Text) :
    ofLines (ls ++ ms) = (ofLines ls).append (ofLines ms) := by
  simp [ofLines, append]

theorem addAbove_classify? (d : DocComment) (line : Text) :
    d.addAbove (DocTag.classify? line) = (ofLines [line]).append d := by
  cases hc : DocTag.classify? line with
  | none => simp [addAbove, ofLines, append, hc]
  | some tag =>
    cases tag <;>
      simp [addAbove, ofLines, append, hc, DocTag.param?, DocTag.returned?, DocTag.description?]

/-- Walking up adds the lines that are reached to what was collected below them. -/
theorem walkUp_eq_append (d : DocComment) (limit : Nat) (above : List Text) :
    d.walkUp limit above =
      (ofLines ((above.takeWhile DocTag.isComment).take limit).reverse).append d := by
  induction limit generalizing d above with
  | zero => simp [walkUp, ofLines, append]
  | succ limit ih =>
    cases above with
    | nil => simp [walkUp, ofLines, append]
    | cons line above =>
      by_cases hline : DocTag.isComment line = true
      · rw [walkUp, if_pos hline, ih, addAbove_classify?, ← append_assoc, ← ofLines_append,
          List.takeWhile_cons_of_pos hline, List.take_succ_cons, List.reverse_cons]
      · rw [walkUp, if_neg hline, List.takeWhile_cons_of_neg hline]
        simp [ofLines, append]

/-- The lines are the comment right above the line with this number: the longest run of comment lines that
ends there. -/
structure IsAbove (ls : List Text) (index : Nat) (block : List Text) : Prop where
  comments : ∀ l ∈ block, DocTag.isComment l = true
  longest : ∃ before, ls.take index = before ++ block ∧
    ∀ l, before.getLast? = some l → DocTag.isComment l = false

theorem isAbove_takeWhile (ls : List Text) (index : Nat) :
    IsAbove ls index ((ls.take index).reverse.takeWhile DocTag.isComment).reverse := by
  refine ⟨?_, ((ls.take index).reverse.dropWhile DocTag.isComment).reverse, ?_, ?_⟩
  · intro l hl
    exact List.mem_takeWhile_imp (List.mem_reverse.mp hl)
  · rw [← List.reverse_append, List.takeWhile_append_dropWhile, List.reverse_reverse]
  · intro l hl
    rw [List.getLast?_reverse] at hl
    have hfirst := List.head?_dropWhile_not DocTag.isComment (ls.take index).reverse
    rw [hl] at hfirst
    simpa using hfirst

end DocComment

namespace ModuleInfo

open DocComment

/-- The comment of a definition is what the last lines of the comment above it say from the top down, as many
lines as may be looked at and none if that number is negative. The description of the function joins their
fragments by single spaces, its signature lists the parameters as often as they are documented, and its table
has each of them at its first place with what is documented last. -/
theorem function_documented (ls : List Text) (index : Nat) (count : Int) (path : Text) (span : Span) :
    ∃ block, IsAbove ls index block ∧
      let above := (ls.take index).reverse
      let doc := ofLines (block.drop (block.length - (max count 0).toNat))
      let f := function (Lookback.lines count).limit path index above span
      collect (Lookback.lines count).limit above = doc ∧
      f.detail = List.intercalate [' '] doc.detail ∧
      f.title = "function ".toList ++ span.name ++ "(".toList ++
        List.intercalate ", ".toList (doc.params.map fun p => p.1 ++ ": ".toList ++ p.2.type) ++
        ")".toList ++ FunctionInfo.returnLines 1 doc.returns ∧
      f.returns = doc.returns ∧
      f.params.keys = (doc.params.map Prod.fst).eraseDups ∧
      ∀ name info, f.params.get? name = some info ↔
        ∃ earlier later, doc.params = earlier ++ (name, info) :: later ∧ ∀ p ∈ later, p.1 ≠ name := by
  refine ⟨_, isAbove_takeWhile ls index, ?_⟩
  intro above doc f
  have hlimit : (Lookback.lines count).limit = (max count 0).toNat := by
    simp only [Lookback.limit]
    omega
  have hcollect : collect (Lookback.lines count).limit above = doc := by
    rw [collect, walkUp_eq_append, append_empty, hlimit, List.reverse_take]
    simp only [doc, above, List.length_reverse]
  refine ⟨hcollect, ?_, ?_, ?_, ?_, ?_⟩
  · rw [← hcollect]
    rfl
  · rw [← hcollect]
    rfl
  · rw [← hcollect]
    rfl
  · rw [← hcollect]
    exact Table.keys_ofList _
  · intro name info
    rw [← hcollect]
    exact Table.get?_ofList_eq_some_iff

end ModuleInfo

end LuaIndex
