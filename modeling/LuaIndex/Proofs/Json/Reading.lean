import LuaIndex.Json.Read
import Mathlib.Data.List.Nodup

namespace LuaIndex.Json

/-- Reading succeeds with `a` and stops before `rest`. -/
def Leaves {α : Type} (x : Except JsonError (α × Rest)) (a : α) (rest : Text) : Prop :=
  ∃ offset, x = .ok (a, ⟨rest, offset⟩)

theorem Leaves.bind {α β : Type} {x : Except JsonError (α × Rest)} {a : α} {b : β}
    {f : α × Rest → Except JsonError (β × Rest)} {rest rest' : Text} (h : Leaves x a rest)
    (hf : ∀ offset, Leaves (f (a, ⟨rest, offset⟩)) b rest') : Leaves (x >>= f) b rest' := by
  obtain ⟨offset, rfl⟩ := h
  exact hf offset

/-- A character that JSON is written with. -/
def Written (c : Char) : Prop :=
  c = '\n' ∨ 32 ≤ c.toNat ∧ c.toNat ≤ 126

instance : DecidablePred Written := fun _ => inferInstanceAs (Decidable (_ ∨ _))

section Texts

variable {opening fuel offset n : Nat} {cs : List Nat} {tail rest : Text}

theorem string_shortEscape {c : Char} (hc : c ≠ 'u') (hn : shortEscape? c = some n)
    (h : ∀ o, Leaves (string opening fuel ⟨tail, o⟩) cs rest) :
    Leaves (string opening (fuel + 1) ⟨'\\' :: c :: tail, offset⟩) (n :: cs) rest := by
  unfold string
  simp only [hn]
  exact (h _).bind fun o => ⟨o, rfl⟩

theorem string_character {c : Char} (hq : c ≠ '"') (hb : c ≠ '\\') (hc : 32 ≤ c.toNat)
    (h : ∀ o, Leaves (string opening fuel ⟨tail, o⟩) cs rest) :
    Leaves (string opening (fuel + 1) ⟨c :: tail, offset⟩) (c.toNat :: cs) rest := by
  unfold string
  simp only [Nat.not_lt.mpr hc, if_false]
  exact (h _).bind fun o => ⟨o, rfl⟩

theorem hexDigit?_digitChar : ∀ d < 16, hexDigit? (Nat.digitChar d) = some d := by
  decide

theorem hex4?_hex (hn : n < 0x10000) (t : Text) : hex4? (Text.hex 4 n ++ t) = some n := by
  have hd : ∀ m, hexDigit? (Nat.digitChar (m % 16)) = some (m % 16) := by
    intro m
    exact hexDigit?_digitChar _ (Nat.mod_lt _ (by decide))
  simp only [Text.hex, List.cons_append, List.nil_append, hex4?, hd, pure, bind,
    Option.bind_some, Option.some.injEq]
  omega

theorem drop_hex (n : Nat) (t : Text) : (Text.hex 4 n ++ t).drop 4 = t := rfl

theorem string_unicodeEscape (hn : n < 0x10000) (hhigh : isHighHalf n = false) (htail : tail ≠ [])
    (h : ∀ o, Leaves (string opening fuel ⟨tail, o⟩) cs rest) :
    Leaves (string opening (fuel + 1) ⟨unicodeEscape n ++ tail, offset⟩) (n :: cs) rest := by
  have hnext : Leaves (string opening fuel (Rest.drop ⟨unicodeEscape n ++ tail, offset⟩ 6) >>=
      fun x => .ok (n :: x.1, x.2)) (n :: cs) rest :=
    (h (offset + 6)).bind fun o => ⟨o, rfl⟩
  unfold string
  simp only [unicodeEscape, List.cons_append, drop_hex, List.isEmpty_iff, htail, if_false,
    hex4?_hex hn, hhigh] at hnext ⊢
  -- a second escape may follow, but only a high half would take it in
  split <;> exact hnext

theorem string_pair {high low : Nat} (hh : isHighHalf high = true) (hl : isLowHalf low = true)
    (htail : tail ≠ []) (h : ∀ o, Leaves (string opening fuel ⟨tail, o⟩) cs rest) :
    Leaves (string opening (fuel + 1) ⟨unicodeEscape high ++ (unicodeEscape low ++ tail), offset⟩)
      ((0x10000 + (high - 0xD800) * 1024 + (low - 0xDC00)) :: cs) rest := by
  have hhigh : high < 0x10000 := by
    simp only [isHighHalf, Bool.and_eq_true, decide_eq_true_eq] at hh
    omega
  have hlow : low < 0x10000 := by
    simp only [isLowHalf, Bool.and_eq_true, decide_eq_true_eq] at hl
    omega
  unfold string
  simp only [unicodeEscape, List.cons_append, drop_hex, List.isEmpty_cons,
    List.isEmpty_eq_false_iff.mpr htail, hex4?_hex hhigh, hex4?_hex hlow, hh, hl, Bool.not_false,
    Bool.and_self, if_true]
  exact (h (offset + 12)).bind fun o => ⟨o, rfl⟩

/-- The four ways in which a code point is written. -/
theorem escapeCode_cases (n : Nat) :
    (∃ c, c ≠ 'u' ∧ shortEscape? c = some n ∧ Written c ∧ escapeCode n = ['\\', c]) ∨
    (n ≠ 34 ∧ n ≠ 92 ∧ 32 ≤ n ∧ n ≤ 126 ∧ escapeCode n = [Char.ofNat n]) ∨
    (n < 0x10000 ∧ escapeCode n = unicodeEscape n) ∨
    (0x10000 ≤ n ∧ escapeCode n = unicodeEscape (0xD800 + (n - 0x10000) / 1024) ++
      unicodeEscape (0xDC00 + (n - 0x10000) % 1024)) := by
  by_cases hs : n ∈ [34, 92, 10, 13, 9, 12, 8]
  · simp only [List.mem_cons, List.not_mem_nil, or_false] at hs
    rcases hs with rfl | rfl | rfl | rfl | rfl | rfl | rfl
    · exact Or.inl ⟨'"', by decide⟩
    · exact Or.inl ⟨'\\', by decide⟩
    · exact Or.inl ⟨'n', by decide⟩
    · exact Or.inl ⟨'r', by decide⟩
    · exact Or.inl ⟨'t', by decide⟩
    · exact Or.inl ⟨'f', by decide⟩
    · exact Or.inl ⟨'b', by decide⟩
  · simp only [List.mem_cons, List.not_mem_nil, or_false, not_or] at hs
    obtain ⟨h34, h92, h10, h13, h9, h12, h8⟩ := hs
    rw [escapeCode, if_neg h34, if_neg h92, if_neg h10, if_neg h13, if_neg h9, if_neg h12, if_neg h8]
    simp only [Bool.and_eq_true, decide_eq_true_eq]
    by_cases hplain : 32 ≤ n ∧ n ≤ 126
    · rw [if_pos hplain]
      exact Or.inr (Or.inl ⟨h34, h92, hplain.1, hplain.2, rfl⟩)
    · rw [if_neg hplain]
      by_cases hbasic : n < 0x10000
      · rw [if_pos hbasic]
        exact Or.inr (Or.inr (Or.inl ⟨hbasic, rfl⟩))
      · rw [if_neg hbasic]
        exact Or.inr (Or.inr (Or.inr ⟨Nat.le_of_not_lt hbasic, rfl⟩))

/-- A character written inside quotes is read as its code point. -/
theorem string_escapeCode (c : Char) (htail : tail ≠ [])
    (h : ∀ o, Leaves (string opening fuel ⟨tail, o⟩) cs rest) :
    Leaves (string opening (fuel + 1) ⟨escapeCode c.toNat ++ tail, offset⟩) (c.toNat :: cs) rest := by
  have hvalid : c.toNat.isValidChar := c.valid
  rcases escapeCode_cases c.toNat with ⟨d, hd, hn, -, he⟩ | ⟨h34, h92, h32, -, he⟩ | ⟨hbasic, he⟩ |
    ⟨hlarge, he⟩
  · rw [he]
    exact string_shortEscape hd hn h
  · have hne : ∀ d : Char, c.toNat ≠ d.toNat → c ≠ d := by
      intro d hd hcd
      exact hd (by rw [hcd])
    rw [he, Char.ofNat_toNat]
    exact string_character (hne '"' h34) (hne '\\' h92) h32 h
  · have hhigh : isHighHalf c.toNat = false := by
      simp only [isHighHalf, Bool.and_eq_false_iff, decide_eq_false_iff_not]
      omega
    rw [he]
    exact string_unicodeEscape hbasic hhigh htail h
  · have hhigh : isHighHalf (0xD800 + (c.toNat - 0x10000) / 1024) = true := by
      simp only [isHighHalf, Bool.and_eq_true, decide_eq_true_eq]
      omega
    have hlow : isLowHalf (0xDC00 + (c.toNat - 0x10000) % 1024) = true := by
      simp only [isLowHalf, Bool.and_eq_true, decide_eq_true_eq]
      omega
    have hpair : 0x10000 + ((0xD800 + (c.toNat - 0x10000) / 1024) - 0xD800) * 1024 +
        ((0xDC00 + (c.toNat - 0x10000) % 1024) - 0xDC00) = c.toNat := by omega
    have hread : Leaves (string opening (fuel + 1) ⟨unicodeEscape _ ++ (unicodeEscape _ ++ tail),
        offset⟩) _ rest := string_pair hhigh hlow htail h
    rwa [hpair, ← List.append_assoc, ← he] at hread

theorem written_digitChar : ∀ d < 16, Written (Nat.digitChar d) := by
  decide

theorem written_unicodeEscape (n : Nat) : ∀ c ∈ unicodeEscape n, Written c := by
  have hd : ∀ m, Written (Nat.digitChar (m % 16)) := by
    intro m
    exact written_digitChar _ (Nat.mod_lt _ (by decide))
  have hmark : Written '\\' ∧ Written 'u' := by decide
  simp [unicodeEscape, Text.hex, hd, hmark]

theorem written_escapeCode (n : Nat) : ∀ c ∈ escapeCode n, Written c := by
  rcases escapeCode_cases n with ⟨d, -, -, hd, he⟩ | ⟨-, -, h32, h126, he⟩ | ⟨-, he⟩ | ⟨-, he⟩
  · rw [he, List.forall_mem_cons, List.forall_mem_singleton]
    exact ⟨by decide, hd⟩
  · have hval : (Char.ofNat n).toNat = n := by
      rw [Char.ofNat, dif_pos (Or.inl (by omega))]
      rfl
    rw [he, List.forall_mem_singleton, Written, hval]
    exact Or.inr ⟨h32, h126⟩
  · rw [he]
    exact written_unicodeEscape n
  · rw [he]
    exact List.forall_mem_append.mpr ⟨written_unicodeEscape _, written_unicodeEscape _⟩

theorem escapeCode_ne_nil (n : Nat) : escapeCode n ≠ [] := by
  rcases escapeCode_cases n with ⟨d, -, -, -, he⟩ | ⟨-, -, -, -, he⟩ | ⟨-, he⟩ | ⟨-, he⟩
  all_goals
    rw [he]
    exact List.cons_ne_nil _ _

theorem length_le_length_escaped (t : Text) : t.length ≤ ((codes t).flatMap escapeCode).length := by
  induction t with
  | nil => exact Nat.le_refl 0
  | cons c t ih =>
    have hc : 0 < (escapeCode c.toNat).length := List.length_pos_iff.mpr (escapeCode_ne_nil c.toNat)
    simp only [codes, List.map_cons, List.flatMap_cons, List.length_append, List.length_cons] at ih ⊢
    omega

/-- A text in quotes is read as its code points. -/
theorem string_quoteCodes (t : Text) (hfuel : t.length < fuel) :
    Leaves (string opening fuel ⟨(codes t).flatMap escapeCode ++ '"' :: rest, offset⟩) (codes t)
      rest := by
  induction t generalizing fuel offset with
  | nil =>
    cases fuel with
    | zero => exact absurd hfuel (Nat.not_lt_zero _)
    | succ fuel => exact ⟨offset + 1, rfl⟩
  | cons c t ih =>
    cases fuel with
    | zero => exact absurd hfuel (Nat.not_lt_zero _)
    | succ fuel =>
      have htail : (codes t).flatMap escapeCode ++ '"' :: rest ≠ [] := by simp
      rw [show codes (c :: t) = c.toNat :: codes t from rfl, List.flatMap_cons, List.append_assoc]
      exact string_escapeCode c htail fun o => ih (Nat.lt_of_succ_lt_succ hfuel)

theorem written_quoteCodes (cs : List Nat) : ∀ c ∈ quoteCodes cs, Written c := by
  have hquote : Written '"' := by decide
  have hbody : ∀ c ∈ cs.flatMap escapeCode, Written c := by
    intro c hc
    obtain ⟨n, -, hn⟩ := List.mem_flatMap.mp hc
    exact written_escapeCode n c hn
  simp only [quoteCodes, List.cons_append, List.forall_mem_cons, List.forall_mem_append]
  exact ⟨hquote, hbody, hquote, by simp⟩

end Texts

/-- What comes after a value of a record: a comma, a new line or nothing. -/
def Follows (rest : Text) : Prop :=
  rest = [] ∨ ∃ c t, rest = c :: t ∧ (c = ',' ∨ c = '\n')

section Numbers

variable {n offset : Nat} {rest : Text}

theorem digitsValue_ofNat (n : Nat) : digitsValue (Text.ofNat n) = n := by
  have hfold : digitsValue (Text.ofNat n) = Nat.ofDigitChars 10 (Nat.toDigits 10 n) 0 := by
    simp only [digitsValue, Text.ofNat, Nat.ofDigitChars, Nat.mul_comm]
    rfl
  rw [hfold, Nat.ofDigitChars_toDigits (by decide) (by decide)]

theorem isDigit_of_mem_ofNat {c : Char} (h : c ∈ Text.ofNat n) : c.isDigit = true :=
  Nat.isDigit_of_mem_toDigits (by decide) (by decide) h

/-- Only the number zero starts with a zero. -/
theorem ofNat_eq_cons (n : Nat) : ∃ c ds, Text.ofNat n = c :: ds ∧ (c = '0' → n = 0) := by
  induction n using Nat.strongRecOn with
  | ind n ih =>
    by_cases hn : n < 10
    · have hsmall : ∀ k < 10, k.digitChar = '0' → k = 0 := by decide
      exact ⟨n.digitChar, [], by rw [Text.ofNat, Nat.toDigits_of_lt_base hn], hsmall n hn⟩
    · obtain ⟨c, ds, hds, hzero⟩ := ih (n / 10) (by omega)
      refine ⟨c, ds ++ [(n % 10).digitChar], ?_, ?_⟩
      · rw [Text.ofNat, Nat.toDigits_eq_if (by decide), if_neg hn, ← Text.ofNat, hds,
          List.cons_append]
      · intro hc
        have := hzero hc
        omega

theorem takeWhile_isDigit_ofNat (hrest : Follows rest) :
    (Text.ofNat n ++ rest).takeWhile Char.isDigit = Text.ofNat n := by
  have hall : ∀ c ∈ Text.ofNat n, c.isDigit = true := fun c hc => isDigit_of_mem_ofNat hc
  have hstop : rest.takeWhile Char.isDigit = [] := by
    rcases hrest with rfl | ⟨c, t, rfl, rfl | rfl⟩ <;> rfl
  rw [List.takeWhile_append_of_pos hall, hstop, List.append_nil]

theorem number?_ofNat (hn : (Text.ofNat n).length ≤ Text.digitLimit) (hrest : Follows rest) :
    number? ⟨Text.ofNat n ++ rest, offset⟩ =
      some (.ok (.int n, ⟨rest, offset + (Text.ofNat n).length⟩)) := by
  obtain ⟨c, ds, hds, hzero⟩ := ofNat_eq_cons n
  have hdigit : c.isDigit = true := isDigit_of_mem_ofNat (by rw [hds]; exact List.mem_cons_self)
  have hsign : c ≠ '-' := by
    intro hc
    rw [hc] at hdigit
    exact absurd hdigit (by decide)
  have hfraction : fraction rest = [] := by
    rcases hrest with rfl | ⟨c, t, rfl, rfl | rfl⟩ <;> rfl
  have hexponent : exponent rest = (false, [], 0) := by
    rcases hrest with rfl | ⟨c, t, rfl, rfl | rfl⟩ <;> rfl
  have hvalue : digitsValue (c :: ds) = n := by
    rw [← hds, digitsValue_ofNat]
  have htake : (c :: (ds ++ rest)).takeWhile Char.isDigit = c :: ds := by
    rw [← List.cons_append, ← hds, takeWhile_isDigit_ofNat hrest]
  rw [hds] at hn ⊢
  unfold number?
  by_cases h0 : c = '0'
  · have hnil : ds = [] := by
      rw [hzero h0] at hds
      exact (List.cons.inj hds).2.symm
    subst h0 hnil
    simp [hfraction, hexponent, hvalue, Rest.drop, Text.digitLimit]
  · have hfit : ds.length + 1 ≤ Text.digitLimit := hn
    simp [hsign, h0, htake, hfraction, hexponent, hvalue, Rest.drop]
    omega

theorem find?_words {c : Char} (hc : c.isDigit = true) (t : Text) :
    words.find? (fun w => Text.startsWith (c :: t) w.1.toList) = none := by
  have hletter : ∀ w ∈ words, w.1.toList.head?.map Char.isDigit = some false := by decide
  rw [List.find?_eq_none]
  intro w hw hstart
  obtain ⟨r, hr⟩ := Option.isSome_iff_exists.mp hstart
  have hlead := hletter w hw
  cases hl : w.1.toList with
  | nil => simp [hl] at hlead
  | cons d l =>
    have hcd := (List.cons.inj (hl ▸ Text.after_eq_some_iff.mp hr)).1
    simp [hl, ← hcd, hc] at hlead

end Numbers

theorem skipSpaces_append {spaces : Text} (hspaces : ∀ d ∈ spaces, Rest.isSpace d = true) {c : Char}
    (hc : Rest.isSpace c = false) (t : Text) (offset : Nat) :
    Rest.skipSpaces ⟨spaces ++ c :: t, offset⟩ = ⟨c :: t, offset + spaces.length⟩ := by
  have htake : (spaces ++ c :: t).takeWhile Rest.isSpace = spaces := by
    rw [List.takeWhile_append_of_pos hspaces, List.takeWhile_cons_of_neg (by simp [hc]),
      List.append_nil]
  rw [Rest.skipSpaces, Rest.drop, htake, List.drop_left]

theorem skipSpaces_cons {c : Char} (hc : Rest.isSpace c = false) (t : Text) (offset : Nat) :
    Rest.skipSpaces ⟨c :: t, offset⟩ = ⟨c :: t, offset⟩ :=
  @skipSpaces_append [] (by simp) c hc t offset

theorem newLine_eq_append (level : Nat) (rest : Text) :
    newLine level rest = newLine level [] ++ rest := by
  simp [newLine]

theorem length_newLine (level : Nat) (rest : Text) :
    (newLine level rest).length = 2 * level + rest.length + 1 := by
  simp [newLine]

theorem eq_of_mem_newLine {level : Nat} {c : Char} (hc : c ∈ newLine level []) :
    c = '\n' ∨ c = ' ' := by
  simp only [newLine, List.append_nil, List.mem_cons, List.mem_replicate] at hc
  exact hc.imp id And.right

theorem written_newLine (level : Nat) : ∀ c ∈ newLine level [], Written c := by
  intro c hc
  rcases eq_of_mem_newLine hc with rfl | rfl
  · decide
  · decide

theorem skipSpaces_newLine {c : Char} (hc : Rest.isSpace c = false) (level : Nat) (t : Text)
    (offset : Nat) : Rest.skipSpaces ⟨newLine level (c :: t), offset⟩ =
      ⟨c :: t, offset + (newLine level []).length⟩ := by
  have hspaces : ∀ d ∈ newLine level [], Rest.isSpace d = true := by
    intro d hd
    rcases eq_of_mem_newLine hd with rfl | rfl
    · rfl
    · rfl
  rw [newLine_eq_append]
  exact skipSpaces_append hspaces hc t offset

/-- A character that a value may start with. -/
def Opens (c : Char) : Prop :=
  Rest.isSpace c = false ∧ c ≠ ']' ∧ c ≠ '\x7d'

/-- The text of a value is told from what comes after it, and the value is read from it again, if
reading may go `depth` levels down. -/
structure ReadsBack (depth : Nat) (j : Json) : Prop where
  written : ∀ level, ∃ c t, Opens c ∧ (∀ d ∈ c :: t, Written d) ∧
    ∀ rest, pretty level j rest = c :: (t ++ rest)
  value : ∀ {level levels fuel offset : Nat} {rest : Text}, depth ≤ levels → Follows rest →
    (pretty level j rest).length < fuel →
    Leaves (value levels fuel ⟨pretty level j rest, offset⟩) j rest

theorem ReadsBack.mono {m n : Nat} {j : Json} (h : ReadsBack m j) (hmn : m ≤ n) : ReadsBack n j where
  written := h.written
  value := fun hlevels => h.value (Nat.le_trans hmn hlevels)

theorem readsBack_ofText (t : Text) : ReadsBack 0 (.ofText t) where
  written level := by
    refine ⟨'"', (codes t).flatMap escapeCode ++ ['"'], ⟨rfl, by decide, by decide⟩, ?_, ?_⟩
    · exact written_quoteCodes (codes t)
    · intro rest
      simp [ofText, pretty, quoteCodes]
  value {level levels fuel offset rest} _ _ hfuel := by
    have htext : pretty level (ofText t) rest =
        '"' :: ((codes t).flatMap escapeCode ++ '"' :: rest) := by
      simp [ofText, pretty, quoteCodes]
    have hlength := length_le_length_escaped t
    rw [htext] at hfuel ⊢
    simp only [List.length_cons, List.length_append] at hfuel
    cases fuel with
    | zero => exact absurd hfuel (Nat.not_lt_zero _)
    | succ fuel =>
      unfold Json.value
      exact (string_quoteCodes t (by omega)).bind fun o => ⟨o, rfl⟩

theorem opens_of_isDigit {c : Char} (h : c.isDigit = true) : Opens c := by
  have hne : ∀ d : Char, d.isDigit = false → c ≠ d := by
    intro d hd hcd
    rw [hcd, hd] at h
    exact absurd h (by decide)
  refine ⟨?_, hne ']' rfl, hne '\x7d' rfl⟩
  simp [Rest.isSpace, hne ' ' rfl, hne '\t' rfl, hne '\n' rfl, hne '\r' rfl]

theorem written_of_isDigit {c : Char} (h : c.isDigit = true) : Written c := by
  simp only [Char.isDigit, Bool.and_eq_true, decide_eq_true_eq, ge_iff_le,
    UInt32.le_iff_toNat_le] at h
  exact Or.inr ⟨Nat.le_trans (by decide) h.1, Nat.le_trans h.2 (by decide)⟩

theorem readsBack_count {n : Nat} (hn : (Text.ofNat n).length ≤ Text.digitLimit) :
    ReadsBack 0 (.int n) where
  written level := by
    obtain ⟨c, ds, hds, -⟩ := ofNat_eq_cons n
    have hdigits : ∀ d ∈ c :: ds, d.isDigit = true := fun d hd => isDigit_of_mem_ofNat (hds ▸ hd)
    refine ⟨c, ds, opens_of_isDigit (hdigits c List.mem_cons_self),
      fun d hd => written_of_isDigit (hdigits d hd), fun rest => ?_⟩
    simp [pretty, Text.ofInt, hds]
  value {level levels fuel offset rest} _ hrest hfuel := by
    obtain ⟨c, ds, hds, -⟩ := ofNat_eq_cons n
    have hdigit : c.isDigit = true := isDigit_of_mem_ofNat (by rw [hds]; exact List.mem_cons_self)
    have hnumber : number? ⟨Text.ofNat n ++ rest, offset⟩ = _ := number?_ofNat hn hrest
    have htext : pretty level (.int n) rest = Text.ofNat n ++ rest := by
      simp [pretty, Text.ofInt]
    rw [htext] at hfuel ⊢
    cases fuel with
    | zero => exact absurd hfuel (Nat.not_lt_zero _)
    | succ fuel =>
      rw [hds, List.cons_append] at hnumber ⊢
      unfold Json.value
      simp only [find?_words hdigit, hnumber]
      split
      · next h => exact absurd hdigit (by rw [(List.cons.inj h).1]; decide)
      · next h => exact absurd hdigit (by rw [(List.cons.inj h).1]; decide)
      · next h => exact absurd hdigit (by rw [(List.cons.inj h).1]; decide)
      · exact ⟨_, rfl⟩

/-- The first count that takes more digits than reading allows. -/
def countLimit : Nat :=
  Nat.pow 10 Text.digitLimit

theorem pow_le_countLimit {k : Nat} (hk : k ≤ Text.digitLimit) : Nat.pow 10 k ≤ countLimit := by
  unfold countLimit
  generalize Text.digitLimit = limit at hk ⊢
  exact Nat.pow_le_pow_right (by decide) hk

theorem length_ofNat_le {n : Nat} (hn : n < countLimit) :
    (Text.ofNat n).length ≤ Text.digitLimit := by
  have hlimit : 0 < Text.digitLimit := by decide
  unfold countLimit at hn
  generalize Text.digitLimit = limit at hn hlimit ⊢
  exact (Nat.length_toDigits_le_iff (by decide) hlimit).mpr hn

theorem readsBack_int {n : Int} (h0 : 0 ≤ n) (hn : n < countLimit) : ReadsBack 0 (.int n) := by
  obtain ⟨k, rfl⟩ := Int.eq_ofNat_of_zero_le h0
  exact readsBack_count (length_ofNat_le (Int.ofNat_lt.mp hn))

section Nested

variable {depth level levels outer fuel offset : Nat} {rest : Text}

theorem follows_newLine (level : Nat) (rest : Text) : Follows (newLine level rest) :=
  Or.inr ⟨'\n', _, rfl, Or.inr rfl⟩

theorem ReadsBack.skipSpaces_newLine {j : Json} (h : ReadsBack depth j) (outer level : Nat)
    (rest : Text) (offset : Nat) : Rest.skipSpaces ⟨newLine outer (pretty level j rest), offset⟩ =
      ⟨pretty level j rest, offset + (newLine outer []).length⟩ := by
  obtain ⟨c, t, hc, -, ht⟩ := h.written level
  rw [ht, Json.skipSpaces_newLine hc.1]

theorem ReadsBack.skipSpaces_space {j : Json} (h : ReadsBack depth j) (level : Nat) (rest : Text)
    (offset : Nat) : Rest.skipSpaces ⟨' ' :: pretty level j rest, offset⟩ =
      ⟨pretty level j rest, offset + 1⟩ := by
  obtain ⟨c, t, hc, -, ht⟩ := h.written level
  rw [ht]
  exact @skipSpaces_append [' '] (List.forall_mem_singleton.mpr rfl) c hc.1 (t ++ rest) offset

theorem ReadsBack.length_le {j : Json} (h : ReadsBack depth j) (level : Nat) (rest : Text) :
    rest.length ≤ (pretty level j rest).length := by
  obtain ⟨c, t, -, -, ht⟩ := h.written level
  rw [ht, List.length_cons, List.length_append]
  omega

theorem follows_prettyItems (js : List Json) :
    Follows (prettyItems level js (newLine outer rest)) := by
  cases js with
  | nil => exact follows_newLine outer rest
  | cons j js => exact Or.inr ⟨',', _, rfl, Or.inl rfl⟩

theorem written_prettyItems {js : List Json} (hjs : ∀ j ∈ js, ReadsBack depth j) (level : Nat) :
    ∃ t, (∀ d ∈ t, Written d) ∧ ∀ rest, prettyItems level js rest = t ++ rest := by
  induction js with
  | nil => exact ⟨[], by simp, fun rest => rfl⟩
  | cons j js ih =>
    rw [List.forall_mem_cons] at hjs
    obtain ⟨t, ht, htext⟩ := ih hjs.2
    obtain ⟨c, u, -, hu, hj⟩ := hjs.1.written level
    refine ⟨',' :: (newLine level [] ++ (c :: u ++ t)), ?_, fun rest => ?_⟩
    · simp only [List.forall_mem_cons, List.forall_mem_append] at hu ⊢
      exact ⟨by decide, written_newLine level, hu, ht⟩
    · rw [prettyItems, newLine_eq_append, hj, htext]
      simp

theorem length_prettyItems_cons (level : Nat) (j : Json) (js : List Json) (rest : Text) :
    (pretty level j (prettyItems level js rest)).length + 2 ≤
      (prettyItems level (j :: js) rest).length := by
  rw [prettyItems, List.length_cons, length_newLine]
  omega

/-- The items of an array are read one after the other. -/
theorem items_pretty (hlevels : depth ≤ levels) {j : Json} {js done : List Json}
    (hj : ReadsBack depth j) (hjs : ∀ k ∈ js, ReadsBack depth k)
    (hfuel : (pretty level j (prettyItems level js (newLine outer (']' :: rest)))).length + 1 <
      fuel) :
    Leaves (items levels done fuel
      ⟨pretty level j (prettyItems level js (newLine outer (']' :: rest))), offset⟩)
      (.array (done.reverse ++ j :: js)) rest := by
  -- fuel goes down with the text: each item leaves at least a comma and a new line behind it
  induction fuel generalizing j js done offset with
  | zero => exact absurd hfuel (Nat.not_lt_zero _)
  | succ fuel ih =>
    have hlength := hj.length_le level (prettyItems level js (newLine outer (']' :: rest)))
    unfold items
    refine (hj.value hlevels (follows_prettyItems js) (by omega)).bind fun o => ?_
    cases js with
    | nil =>
      simp only [prettyItems, skipSpaces_newLine (c := ']') rfl, List.reverse_cons]
      exact ⟨_, rfl⟩
    | cons k js =>
      rw [List.forall_mem_cons] at hjs
      have hnext := length_prettyItems_cons level k js (newLine outer (']' :: rest))
      simp only [prettyItems, skipSpaces_cons (c := ',') rfl, Rest.drop, List.drop_succ_cons,
        List.drop_zero, hjs.1.skipSpaces_newLine]
      rw [show done.reverse ++ j :: k :: js = (j :: done).reverse ++ k :: js by simp]
      exact ih hjs.1 hjs.2 (by omega)

/-- Arrays of values that are read back are read back. -/
theorem readsBack_array {js : List Json} (hjs : ∀ j ∈ js, ReadsBack depth j) :
    ReadsBack (depth + 1) (.array js) where
  written level := by
    cases js with
    | nil => exact ⟨'[', [']'], ⟨rfl, by decide, by decide⟩, by simp [Written], fun rest => rfl⟩
    | cons j js =>
      rw [List.forall_mem_cons] at hjs
      obtain ⟨t, ht, htext⟩ := written_prettyItems hjs.2 (level + 1)
      obtain ⟨c, u, -, hu, hj⟩ := hjs.1.written (level + 1)
      refine ⟨'[', newLine (level + 1) [] ++ (c :: u ++ (t ++ (newLine level [] ++ [']']))),
        ⟨rfl, by decide, by decide⟩, ?_, fun rest => ?_⟩
      · simp only [List.forall_mem_cons, List.forall_mem_append] at hu ⊢
        exact ⟨by decide, written_newLine _, hu, ht, written_newLine _, by decide, by simp⟩
      · rw [pretty, newLine_eq_append (level + 1), hj, htext, newLine_eq_append level]
        simp
  value {level levels fuel offset rest} hlevels hrest hfuel := by
    cases fuel with
    | zero => exact absurd hfuel (Nat.not_lt_zero _)
    | succ fuel =>
      have hdeep : levels ≠ 0 := by omega
      cases js with
      | nil =>
        unfold Json.value
        simp only [pretty, hdeep, if_false, Rest.drop, List.drop_succ_cons, List.drop_zero,
          skipSpaces_cons (c := ']') rfl, List.head?_cons, if_true]
        exact ⟨_, rfl⟩
      | cons j js =>
        rw [List.forall_mem_cons] at hjs
        obtain ⟨c, u, hc, -, hj⟩ := hjs.1.written (level + 1)
        rw [pretty, List.length_cons, length_newLine] at hfuel
        have hhead : ∀ r, (pretty (level + 1) j r).head? ≠ some ']' := by
          intro r he
          rw [hj] at he
          exact hc.2.1 (Option.some.inj he)
        unfold Json.value
        simp only [pretty, hdeep, if_false, Rest.drop, List.drop_succ_cons, List.drop_zero,
          hjs.1.skipSpaces_newLine, hhead]
        exact items_pretty (by omega) hjs.1 hjs.2 (by omega)

theorem putMember_of_not_mem {key : List Nat} {j : Json} {done : List (List Nat × Json)}
    (h : key ∉ done.map Prod.fst) : putMember key j done = done ++ [(key, j)] := by
  induction done with
  | nil => rfl
  | cons m done ih =>
    rw [List.map_cons, List.mem_cons, not_or] at h
    rw [putMember, if_neg (Ne.symm h.1), ih h.2, List.cons_append]

theorem follows_prettyMembers (ms : List (List Nat × Json)) :
    Follows (prettyMembers level ms (newLine outer rest)) := by
  cases ms with
  | nil => exact follows_newLine outer rest
  | cons m ms => exact Or.inr ⟨',', _, rfl, Or.inl rfl⟩

theorem written_prettyMembers {ms : List (List Nat × Json)} (hms : ∀ m ∈ ms, ReadsBack depth m.2)
    (level : Nat) : ∃ t, (∀ d ∈ t, Written d) ∧ ∀ rest, prettyMembers level ms rest = t ++ rest := by
  induction ms with
  | nil => exact ⟨[], by simp, fun rest => rfl⟩
  | cons m ms ih =>
    obtain ⟨key, j⟩ := m
    rw [List.forall_mem_cons] at hms
    obtain ⟨t, ht, htext⟩ := ih hms.2
    obtain ⟨c, u, -, hu, hj⟩ := hms.1.written level
    refine ⟨',' :: (newLine level [] ++ (quoteCodes key ++ (':' :: ' ' :: (c :: u ++ t)))), ?_,
      fun rest => ?_⟩
    · simp only [List.forall_mem_cons, List.forall_mem_append] at hu ⊢
      exact ⟨by decide, written_newLine level, written_quoteCodes key, by decide,
        by decide, hu, ht⟩
    · rw [prettyMembers, newLine_eq_append, hj, htext]
      simp

/-- The text of a member of an object and of the members after it. -/
def membersText (level outer : Nat) (key : List Nat) (j : Json) (ms : List (List Nat × Json))
    (rest : Text) : Text :=
  quoteCodes key ++ ':' :: ' ' ::
    pretty level j (prettyMembers level ms (newLine outer ('\x7d' :: rest)))

theorem skipSpaces_membersText (inner level outer : Nat) (key : List Nat) (j : Json)
    (ms : List (List Nat × Json)) (rest : Text) (offset : Nat) :
    Rest.skipSpaces ⟨newLine inner (membersText level outer key j ms rest), offset⟩ =
      ⟨membersText level outer key j ms rest, offset + (newLine inner []).length⟩ :=
  skipSpaces_newLine rfl _ _ _

/-- The members of an object are read one after the other. -/
theorem members_pretty (hlevels : depth ≤ levels) {key : Text} {j : Json}
    {ms done : List (List Nat × Json)} (hj : ReadsBack depth j)
    (hms : ∀ m ∈ ms, (∃ t, m.1 = codes t) ∧ ReadsBack depth m.2)
    (hkeys : ((done ++ (codes key, j) :: ms).map Prod.fst).Nodup)
    (hfuel : (membersText level outer (codes key) j ms rest).length + 1 < fuel) :
    Leaves (members levels done fuel ⟨membersText level outer (codes key) j ms rest, offset⟩)
      (.object (done ++ (codes key, j) :: ms)) rest := by
  induction fuel generalizing key j ms done offset with
  | zero => exact absurd hfuel (Nat.not_lt_zero _)
  | succ fuel ih =>
    have hkey := length_le_length_escaped key
    have hnew : codes key ∉ done.map Prod.fst := by
      rw [List.map_append, List.nodup_append] at hkeys
      intro hmem
      exact hkeys.2.2 _ hmem _ List.mem_cons_self rfl
    have hlength := hj.length_le level (prettyMembers level ms (newLine outer ('\x7d' :: rest)))
    simp only [membersText, quoteCodes, List.cons_append, List.append_assoc, List.nil_append,
      List.length_cons, List.length_append] at hfuel ⊢
    unfold members
    refine (string_quoteCodes key (by omega)).bind fun o => ?_
    simp only [skipSpaces_cons (c := ':') rfl, Rest.drop, List.drop_succ_cons, List.drop_zero,
      hj.skipSpaces_space]
    refine (hj.value hlevels (follows_prettyMembers ms) (by omega)).bind fun o => ?_
    simp only [putMember_of_not_mem hnew]
    cases ms with
    | nil =>
      simp only [prettyMembers, skipSpaces_newLine (c := '\x7d') rfl]
      exact ⟨_, rfl⟩
    | cons m ms =>
      obtain ⟨key', k⟩ := m
      rw [List.forall_mem_cons] at hms
      have hk : ReadsBack depth k := hms.1.2
      obtain ⟨key', rfl⟩ := hms.1.1
      have hmore : prettyMembers level ((codes key', k) :: ms) (newLine outer ('\x7d' :: rest)) =
          ',' :: newLine level (membersText level outer (codes key') k ms rest) := rfl
      rw [hmore, List.length_cons, length_newLine] at hlength
      rw [hmore] at hfuel
      simp only [hmore, skipSpaces_cons (c := ',') rfl, List.drop_succ_cons, List.drop_zero,
        skipSpaces_membersText]
      rw [show done ++ (codes key, j) :: (codes key', k) :: ms =
        done ++ [(codes key, j)] ++ (codes key', k) :: ms by simp] at hkeys ⊢
      exact ih hk hms.2 hkeys (by omega)

/-- Objects of values that are read back are read back, if their keys are different texts. -/
theorem readsBack_object {ms : List (List Nat × Json)} (hkeys : (ms.map Prod.fst).Nodup)
    (hms : ∀ m ∈ ms, (∃ t, m.1 = codes t) ∧ ReadsBack depth m.2) :
    ReadsBack (depth + 1) (.object ms) where
  written level := by
    cases ms with
    | nil => exact ⟨'\x7b', ['\x7d'], ⟨rfl, by decide, by decide⟩, by simp [Written], fun rest => rfl⟩
    | cons m ms =>
      obtain ⟨key, j⟩ := m
      rw [List.forall_mem_cons] at hms
      obtain ⟨t, ht, htext⟩ := written_prettyMembers (fun m hm => (hms.2 m hm).2) (level + 1)
      obtain ⟨c, u, -, hu, hj⟩ := hms.1.2.written (level + 1)
      refine ⟨'\x7b', newLine (level + 1) [] ++ (quoteCodes key ++ (':' :: ' ' :: (c :: u ++
        (t ++ (newLine level [] ++ ['\x7d']))))), ⟨rfl, by decide, by decide⟩, ?_, fun rest => ?_⟩
      · simp only [List.forall_mem_cons, List.forall_mem_append] at hu ⊢
        exact ⟨by decide, written_newLine _, written_quoteCodes key, by decide, by decide, hu, ht,
          written_newLine _, by decide, by simp⟩
      · rw [pretty, newLine_eq_append (level + 1), hj, htext, newLine_eq_append level]
        simp
  value {level levels fuel offset rest} hlevels hrest hfuel := by
    cases fuel with
    | zero => exact absurd hfuel (Nat.not_lt_zero _)
    | succ fuel =>
      have hdeep : levels ≠ 0 := by omega
      cases ms with
      | nil =>
        unfold Json.value
        simp only [pretty, hdeep, if_false, Rest.drop, List.drop_succ_cons, List.drop_zero,
          skipSpaces_cons (c := '\x7d') rfl, List.head?_cons, if_true]
        exact ⟨_, rfl⟩
      | cons m ms =>
        obtain ⟨key, j⟩ := m
        rw [List.forall_mem_cons] at hms
        obtain ⟨⟨⟨key, rfl⟩, hj⟩, hms⟩ := hms
        have htext : pretty level (.object ((codes key, j) :: ms)) rest =
            '\x7b' :: newLine (level + 1) (membersText (level + 1) level (codes key) j ms rest) := by
          rw [pretty, membersText]
        have hhead : (membersText (level + 1) level (codes key) j ms rest).head? ≠ some '\x7d' := by
          simp [membersText, quoteCodes]
        rw [htext, List.length_cons, length_newLine] at hfuel
        unfold Json.value
        simp only [htext, hdeep, if_false, Rest.drop, List.drop_succ_cons, List.drop_zero,
          skipSpaces_membersText, hhead]
        exact members_pretty (by omega) hj hms hkeys (by omega)

end Nested

theorem codes_injective : Function.Injective codes := by
  intro s t h
  exact List.map_injective_iff.mpr (fun a b hab => Char.toNat_inj.mp hab) h

theorem readsBack_ofList {α : Type} {depth : Nat} {f : α → Json} {l : List α}
    (h : ∀ a ∈ l, ReadsBack depth (f a)) : ReadsBack (depth + 1) (.ofList f l) :=
  readsBack_array (List.forall_mem_map.mpr h)

theorem readsBack_ofTable {α : Type} {depth : Nat} {f : α → Json} {t : Table α}
    (hkeys : t.keys.Nodup) (h : ∀ e ∈ t, ReadsBack depth (f e.2)) :
    ReadsBack (depth + 1) (.ofTable f t) := by
  refine readsBack_object ?_ ?_
  · have hcodes := List.Nodup.map codes_injective hkeys
    rw [Table.keys, List.map_map] at hcodes
    rw [List.map_map]
    exact hcodes
  · exact List.forall_mem_map.mpr fun e he => ⟨⟨e.1, rfl⟩, h e he⟩

theorem readsBack_record {depth : Nat} {ms : List (String × Json)}
    (hkeys : (ms.map Prod.fst).Nodup) (h : ∀ m ∈ ms, ReadsBack depth m.2) :
    ReadsBack (depth + 1) (.record ms) := by
  refine readsBack_object ?_ ?_
  · have hinj : Function.Injective fun s : String => codes s.toList := by
      intro a b hab
      exact String.toList_inj.mp (codes_injective hab)
    have hcodes := List.Nodup.map hinj hkeys
    rw [List.map_map] at hcodes ⊢
    exact hcodes
  · exact List.forall_mem_map.mpr fun m hm => ⟨⟨m.1.toList, rfl⟩, h m hm⟩

/-- Reading a written value, and a new line, gives the value. -/
theorem read_render {depth : Nat} {j : Json} (h : ReadsBack depth j) (hdepth : depth ≤ depthLimit) :
    read (j.render ++ ['\n']) = .ok j := by
  obtain ⟨c, t, hc, hwritten, htext⟩ := h.written 0
  have hline : j.render ++ ['\n'] = pretty 0 j ['\n'] := by
    rw [render, htext, htext]
    simp
  have hmark : c ≠ '\uFEFF' := by
    intro hbom
    have hplain := hwritten c List.mem_cons_self
    rw [hbom] at hplain
    exact absurd hplain (by decide)
  have hvalue : Leaves (value depthLimit (3 * (pretty 0 j ['\n']).length + 3)
      ⟨pretty 0 j ['\n'], 0⟩) j ['\n'] :=
    h.value hdepth (follows_newLine 0 []) (by omega)
  obtain ⟨o, ho⟩ := hvalue
  have hstart : Rest.skipSpaces ⟨pretty 0 j ['\n'], 0⟩ = ⟨pretty 0 j ['\n'], 0⟩ := by
    rw [htext, skipSpaces_cons hc.1]
  have hhead : (pretty 0 j ['\n']).head? ≠ some '\uFEFF' := by
    rw [htext]
    exact fun he => hmark (Option.some.inj he)
  rw [hline, read, if_neg hhead, hstart, ho]
  rfl

end LuaIndex.Json
