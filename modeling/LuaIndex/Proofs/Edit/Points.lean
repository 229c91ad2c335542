import LuaIndex.Proofs.Edit.Offsets
import Mathlib.Data.Set.Function

namespace LuaIndex

namespace Position

/-- Of the points of the text that do not come after `p`, `q` is the last. -/
structure NearestInText (source : Text) (p q : Position) : Prop where
  inText : q.InText source
  before : q.le p = true
  last : ∀ r : Position, r.InText source → r.le p = true → r.le q = true

variable {source l : Text} {p : Position}

theorem inText_of_lines {pre post : List Text} (hl : Text.lines source = pre ++ l :: post) {column : Nat}
    (hc : column ≤ l.length) : (⟨pre.length, column⟩ : Position).InText source := by
  have hget : (Text.lines source)[pre.length]? = some l := by simp [hl]
  exact ⟨⟨Int.natCast_nonneg _, Int.natCast_nonneg _⟩, l, hget, Int.ofNat_le.mpr hc⟩

theorem InText.line_lt (h : p.InText source) : p.line < (Text.lines source).length := by
  have hline := h.counted.line
  obtain ⟨l, hl, -⟩ := h.reached
  obtain ⟨hlt, -⟩ := List.getElem?_eq_some_iff.mp hl
  omega

theorem InText.character_le (h : p.InText source) {i : Nat} (hl : (Text.lines source)[i]? = some l)
    (hi : p.line = i) : p.character ≤ l.length := by
  obtain ⟨m, hm, hle⟩ := h.reached
  rw [hi, Int.toNat_natCast, hl] at hm
  obtain rfl := Option.some.inj hm
  exact hle

end Position

namespace Text

variable {t : Text}

/-- The end of the text is the end of its last line. -/
theorem length_of_lines_concat {ls : List Text} {last : Text} (h : lines t = ls ++ [last]) :
    t.length = (lead ls).length + last.length := by
  rw [eq_lead_append h, List.length_append]

/-- Every offset lies on a line: what comes before it are the lines above and the beginning of its own. -/
theorem exists_line_of_le_length {n : Nat} (h : n ≤ t.length) :
    ∃ pre l post column, lines t = pre ++ l :: post ∧ column ≤ l.length ∧
      n = (lead pre).length + column := by
  obtain ⟨p, r, rfl, rfl⟩ := exists_append h
  obtain ⟨pre, a, hp⟩ := exists_lines_eq_concat p
  obtain ⟨b, post, hr⟩ := List.exists_cons_of_ne_nil (lines_ne_nil r)
  have hsplit := lines_append hp hr
  have hcolumn : a.length ≤ (a ++ b).length := by
    rw [List.length_append]
    omega
  exact ⟨pre, a ++ b, post, a.length, hsplit, hcolumn, length_of_lines_concat hp⟩

end Text

namespace Edit

variable {source : Text}

/-- The offsets in a text, from 0 to its length. -/
def offsetsIn (source : Text) : Set (Except EditError Int) :=
  {o | ∃ n : Nat, n ≤ source.length ∧ o = .ok (n : Int)}

theorem offset_mapsTo (source : Text) :
    Set.MapsTo (offset source) {p | p.InText source} (offsetsIn source) := by
  intro p hp
  obtain ⟨pre, l, post, hl, -, hcolumn, hoffset⟩ := exists_offset_of_inText hp
  have hend := Text.length_lead_add_le hl
  have hlimit : (Text.lead pre).length + p.character.toNat ≤ source.length := by omega
  exact ⟨_, hlimit, hoffset⟩

theorem offset_injOn (source : Text) : Set.InjOn (offset source) {p | p.InText source} := by
  intro p hp q hq h
  exact eq_of_offset_eq hp hq h

theorem offset_surjOn (source : Text) :
    Set.SurjOn (offset source) {p | p.InText source} (offsetsIn source) := by
  intro o ho
  obtain ⟨n, hn, rfl⟩ := ho
  obtain ⟨pre, l, post, column, hl, hcolumn, rfl⟩ := Text.exists_line_of_le_length hn
  exact ⟨⟨pre.length, column⟩, Position.inText_of_lines hl hcolumn, offset_of_lines hl hcolumn⟩

/-- Different points of a text have different offsets, and these are all the offsets in the text. -/
theorem offset_bijOn (source : Text) :
    Set.BijOn (offset source) {p | p.InText source} (offsetsIn source) :=
  ⟨offset_mapsTo source, offset_injOn source, offset_surjOn source⟩

/-- On a line of the text the nearest point is the column itself or the end of the line. -/
theorem nearest_of_lines {p : Position} (h : p.Counted) {pre post : List Text} {l : Text}
    (hl : Text.lines source = pre ++ l :: post) (hline : p.line = pre.length) :
    p.NearestInText source ⟨pre.length, (min p.character.toNat l.length : Nat)⟩ := by
  have hcharacter := h.character
  refine ⟨Position.inText_of_lines hl (Nat.min_le_right _ _), ?_, ?_⟩
  · rw [Position.le_iff]
    dsimp only
    omega
  · intro r hr hbefore
    have hget : (Text.lines source)[pre.length]? = some l := by simp [hl]
    rw [Position.le_iff] at hbefore ⊢
    dsimp only
    rcases hbefore with hlt | ⟨heq, hle⟩
    · omega
    · -- on the same line the end of the line bounds the point as well
      have hcolumn := hr.character_le hget (heq.trans hline)
      omega

/-- Below the last line the nearest point is the end of the text. -/
theorem nearest_of_below {p : Position} {ls : List Text} {last : Text}
    (hl : Text.lines source = ls ++ [last]) (hbelow : ((Text.lines source).length : Int) ≤ p.line) :
    p.NearestInText source ⟨ls.length, last.length⟩ := by
  have hcount : (Text.lines source).length = ls.length + 1 := by simp [hl]
  refine ⟨Position.inText_of_lines hl (Nat.le_refl _), ?_, ?_⟩
  · rw [Position.le_iff]
    dsimp only
    omega
  · intro r hr _
    have hget : (Text.lines source)[ls.length]? = some last := by simp [hl]
    have hline := hr.line_lt
    rw [Position.le_iff]
    dsimp only
    by_cases hlast : r.line = ls.length
    · have hcolumn := hr.character_le hget hlast
      omega
    · omega

/-- A point stands for the nearest point of the text. -/
theorem exists_nearest (source : Text) {p : Position} (h : p.Counted) :
    ∃ q, p.NearestInText source q ∧ offset source p = offset source q := by
  rcases offset_cases source h with ⟨pre, l, post, hl, hline, hoffset⟩ | ⟨hbelow, hoffset⟩
  · have hclamped := offset_of_lines hl (Nat.min_le_right p.character.toNat l.length)
    exact ⟨_, nearest_of_lines h hl hline, hoffset.trans hclamped.symm⟩
  · obtain ⟨ls, last, hl⟩ := Text.exists_lines_eq_concat source
    have hend := offset_of_lines hl (Nat.le_refl last.length)
    rw [← Text.length_of_lines_concat hl] at hend
    exact ⟨_, nearest_of_below hl hbelow, hoffset.trans hend.symm⟩

/-- Between the offsets of two columns of a line the text is that of the line between the columns. -/
theorem exists_cut_eq {l : Text} {pre post : List Text} (hl : Text.lines source = pre ++ l :: post)
    (a b : Nat) :
    ∃ m n : Nat, offset source ⟨pre.length, a⟩ = .ok (m : Int) ∧
      offset source ⟨pre.length, b⟩ = .ok (n : Int) ∧ Text.cut source m n = Text.cut l a b := by
  have hend := Text.length_lead_add_le hl
  obtain ⟨rest, hsource⟩ := Text.exists_eq_lead_append hl
  refine ⟨_, _, offset_clamped hl a, offset_clamped hl b, ?_⟩
  have hlimit : ∀ c : Nat, min ((Text.lead pre).length + min c l.length) source.length =
      (Text.lead pre).length + min c l.length := by omega
  simp only [Text.cut, Text.clampColumn_natCast, hlimit]
  rw [hsource, List.take_length_add_append, List.drop_length_add_append,
    List.take_append_of_le_length (Nat.min_le_right b l.length)]

/-- Points without a negative coordinate have offsets in their own order. The points of the text have each
offset from 0 to its length exactly once, and any other point has the offset of the nearest one before it. On a
line, what stands between two columns is what stands in the text between their offsets. -/
theorem points_match_offsets (source : Text) :
    (∀ p q : Position, p.Counted → q.Counted → p.le q = true →
      ∃ m n : Nat, offset source p = .ok (m : Int) ∧ offset source q = .ok (n : Int) ∧ m ≤ n) ∧
    Set.BijOn (offset source) {p | p.InText source} (offsetsIn source) ∧
    (∀ p : Position, p.Counted →
      ∃ q, p.NearestInText source q ∧ offset source p = offset source q) ∧
    ∀ (line a b : Nat) (l : Text), (Text.lines source)[line]? = some l →
      ∃ m n : Nat, offset source ⟨line, a⟩ = .ok (m : Int) ∧ offset source ⟨line, b⟩ = .ok (n : Int) ∧
        Text.cut source m n = Text.cut l a b := by
  refine ⟨?_, offset_bijOn source, ?_, ?_⟩
  · intro p q hp hq hle
    obtain ⟨m, n, hm, hn, hmn, -⟩ := offset_mono source hp hq hle
    exact ⟨m, n, hm, hn, hmn⟩
  · intro p hp
    exact exists_nearest source hp
  · intro line a b l hl
    obtain ⟨pre, post, hsplit, rfl⟩ := Text.exists_append_of_getElem? hl
    exact exists_cut_eq hsplit a b

example : offset "ab\n".toList ⟨0, 9⟩ = .ok 2 ∧ offset "ab\n".toList ⟨1, 0⟩ = .ok 3 ∧
    offset "ab\n".toList ⟨9, 0⟩ = .ok 3 := by
  decide

end Edit

end LuaIndex
