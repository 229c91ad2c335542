import LuaIndex.Path
import Mathlib.Data.List.Lex

namespace LuaIndex

section

variable {α : Type} (before : α → α → Prop) {le : α → α → Bool}

/-- A test for "equal or before" decides between any two, if the order does. -/
theorem total_of_le_iff [Std.Trichotomous before]
    (h : ∀ a b, le a b = true ↔ a = b ∨ before a b) (a b : α) : (le a b || le b a) = true := by
  have hcases : before a b ∨ a = b ∨ before b a := by
    by_contra hnone
    simp only [not_or] at hnone
    exact hnone.2.1 (Std.Trichotomous.trichotomous a b hnone.1 hnone.2.2)
  rw [Bool.or_eq_true, h, h]
  rcases hcases with hab | hab | hba
  · exact Or.inl (Or.inr hab)
  · exact Or.inl (Or.inl hab)
  · exact Or.inr (Or.inr hba)

theorem trans_of_le_iff (htrans : ∀ a b c, before a b → before b c → before a c)
    (h : ∀ a b, le a b = true ↔ a = b ∨ before a b) {a b c : α} (hab : le a b = true)
    (hbc : le b c = true) : le a c = true := by
  rw [h] at hab hbc ⊢
  rcases hab with rfl | hab
  · exact hbc
  · rcases hbc with rfl | hbc
    · exact Or.inr hab
    · exact Or.inr (htrans a b c hab hbc)

end

namespace Text

/-- Strictly before in the order of code points: by the first difference, and a text before its
continuations. -/
def Precedes (a b : Text) : Prop :=
  List.Lex (fun c d => c.toNat < d.toNat) a b

theorem le_iff {a b : Text} : le a b = true ↔ a = b ∨ Precedes a b := by
  induction a generalizing b with
  | nil => cases b <;> simp [le, Precedes]
  | cons c a ih =>
    cases b with
    | nil => simp [le, Precedes]
    | cons d b =>
      by_cases hcd : c = d
      · simp [le, hcd, ih, Precedes, List.cons_lex_cons_iff]
      · simp [le, hcd, Precedes, List.cons_lex_cons_iff]

instance : Std.Trichotomous fun c d : Char => c.toNat < d.toNat :=
  ⟨fun c d hcd hdc => Char.toNat_inj.mp (by omega)⟩

instance : Std.Trichotomous Precedes :=
  inferInstanceAs (Std.Trichotomous (List.Lex _))

theorem Precedes.trans {a b c : Text} (hab : Precedes a b) (hbc : Precedes b c) : Precedes a c :=
  List.lex_trans (fun h h' => Nat.lt_trans h h') hab hbc

theorem Precedes.irrefl (a : Text) : ¬ Precedes a a :=
  List.lex_irrefl (fun c => Nat.lt_irrefl c.toNat) a

theorem le_total (a b : Text) : (le a b || le b a) = true :=
  total_of_le_iff Precedes (fun _ _ => le_iff) a b

theorem le_trans {a b c : Text} (hab : le a b = true) (hbc : le b c = true) : le a c = true :=
  trans_of_le_iff Precedes (fun _ _ _ => Precedes.trans) (fun _ _ => le_iff) hab hbc

end Text

namespace Path

/-- Strictly before in the order of lists of names. -/
def NamesPrecede (a b : List Text) : Prop :=
  List.Lex Text.Precedes a b

theorem namesLe_iff {a b : List Text} : namesLe a b = true ↔ a = b ∨ NamesPrecede a b := by
  induction a generalizing b with
  | nil => cases b <;> simp [namesLe, NamesPrecede]
  | cons n a ih =>
    cases b with
    | nil => simp [namesLe, NamesPrecede]
    | cons m b =>
      by_cases hnm : n = m
      · have hm : ¬ Text.Precedes m m := Text.Precedes.irrefl m
        simp [namesLe, hnm, ih, NamesPrecede, List.cons_lex_cons_iff, hm]
      · simp [namesLe, hnm, Text.le_iff, NamesPrecede, List.cons_lex_cons_iff]

instance : Std.Trichotomous NamesPrecede :=
  inferInstanceAs (Std.Trichotomous (List.Lex _))

theorem NamesPrecede.trans {a b c : List Text} (hab : NamesPrecede a b) (hbc : NamesPrecede b c) :
    NamesPrecede a c :=
  List.lex_trans Text.Precedes.trans hab hbc

theorem namesLe_total (a b : List Text) : (namesLe a b || namesLe b a) = true :=
  total_of_le_iff NamesPrecede (fun _ _ => namesLe_iff) a b

theorem namesLe_trans {a b c : List Text} (hab : namesLe a b = true) (hbc : namesLe b c = true) :
    namesLe a c = true :=
  trans_of_le_iff NamesPrecede (fun _ _ _ => NamesPrecede.trans) (fun _ _ => namesLe_iff) hab hbc

end Path

end LuaIndex
