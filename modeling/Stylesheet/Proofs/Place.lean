import Stylesheet.Position

/-!
# Positions in closed form

A position is kept up to date character by character. `placeAt` says outright which position
belongs to an index of a text: lines are counted by the line feeds before it, and columns from
the last of them. An index behind the end of the text has a position too, on the last line.

One read leads from an index to the next (`placeAt_succ`), so reading up to an index leads to its
position (`start_advance_take`), and the positions of a text are in the same order by line and
column as by cursor (`Placed.cursor_lt_iff`).
-/

namespace Stylesheet

/-- The index just after the last line feed of a text, which is 0 if it has none. -/
def lineStart (text : List Char) : Nat := text.length - (text.reverse.takeWhile (· != '\n')).length

/-- The position that belongs to an index of a text. -/
def placeAt (text : List Char) (k : Nat) : Position :=
  ⟨k, 1 + (text.take k).count '\n', k - lineStart (text.take k)⟩

theorem lineStart_append_feed (text : List Char) : lineStart (text ++ ['\n']) = text.length + 1 := by
  simp [lineStart]

theorem lineStart_append_other (text : List Char) {c : Char} (hc : c ≠ '\n') :
    lineStart (text ++ [c]) = lineStart text := by
  simp [lineStart, hc]

/-! ### Reading -/

theorem step_feed (p : Position) : p.step (some '\n') = ⟨p.cursor + 1, p.line + 1, 0⟩ := rfl

theorem step_none (p : Position) : p.step none = ⟨p.cursor + 1, p.line, p.column + 1⟩ := rfl

theorem step_other (p : Position) {c : Char} (hc : c ≠ '\n') :
    p.step (some c) = ⟨p.cursor + 1, p.line, p.column + 1⟩ := by
  unfold Position.step
  split
  · next h => exact absurd (Option.some.inj h) hc
  · rfl

/-- **One read leads from an index to the next**, also behind the end of the text. -/
theorem placeAt_succ (text : List Char) (k : Nat) : placeAt text (k + 1) = (placeAt text k).step text[k]? := by
  rw [placeAt, placeAt]
  by_cases hk : k < text.length
  · have hlength : (text.take k).length = k := List.length_take_of_le (Nat.le_of_lt hk)
    rw [List.take_succ_eq_append_getElem hk, List.getElem?_eq_getElem hk, List.count_append]
    by_cases hc : text[k] = '\n'
    · rw [hc, step_feed, lineStart_append_feed, List.count_singleton_self, hlength]
      simp only [Position.mk.injEq]
      omega
    · have hcount : List.count '\n' [text[k]] = 0 := List.count_eq_zero.2 fun h => hc (List.mem_singleton.1 h).symm
      rw [step_other _ hc, lineStart_append_other _ hc, hcount]
      simp only [Position.mk.injEq]
      omega
  · rw [List.getElem?_eq_none (by omega), step_none, List.take_of_length_le (by omega),
      List.take_of_length_le (by omega)]
    simp only [Position.mk.injEq, true_and]
    omega

/-- **Reading up to an index leads to its position.** -/
theorem start_advance_take (text : List Char) {k : Nat} (hk : k ≤ text.length) :
    Position.start.advance (text.take k) = placeAt text k := by
  induction k with
  | zero => rfl
  | succ k ih =>
    have hlt : k < text.length := hk
    rw [List.take_succ_eq_append_getElem hlt, Position.advance_append, ih (Nat.le_of_lt hlt), placeAt_succ,
      List.getElem?_eq_getElem hlt]
    rfl

/-! ### Order -/

/-- Whether a position comes before another one by line, and on one line by column. -/
def Position.Before (p q : Position) : Prop := p.line < q.line ∨ p.line = q.line ∧ p.column < q.column

theorem Position.Before.trans {p q r : Position} (h : p.Before q) (h' : q.Before r) : p.Before r := by
  unfold Before at *
  omega

theorem Position.before_step (p : Position) (c : Option Char) : p.Before (p.step c) := by
  unfold Before step
  split
  · left
    dsimp only
    omega
  · right
    dsimp only
    omega

theorem placeAt_before (text : List Char) {j k : Nat} (h : j < k) : (placeAt text j).Before (placeAt text k) := by
  induction h with
  | refl => rw [placeAt_succ]; exact Position.before_step _ _
  | @step k _ ih => rw [placeAt_succ]; exact ih.trans (Position.before_step _ _)

/-- `Placed text p`: line and column of `p` are those that its cursor has in `text`. -/
structure Placed (text : List Char) (p : Position) : Prop where
  /-- It does not lie before the text. -/
  cursor : 0 ≤ p.cursor
  /-- As many line feeds stand before it as its line says. -/
  line : p.line = 1 + (text.take p.cursor.toNat).count '\n'
  /-- It is as far behind the last of them as its column says. -/
  column : p.column = p.cursor - lineStart (text.take p.cursor.toNat)

theorem placed_iff {text : List Char} {p : Position} : Placed text p ↔ ∃ k, p = placeAt text k := by
  constructor
  · rintro ⟨hcursor, hline, hcolumn⟩
    refine ⟨p.cursor.toNat, ?_⟩
    rw [placeAt, ← hline, Int.toNat_of_nonneg hcursor, ← hcolumn]
  · rintro ⟨k, rfl⟩
    exact ⟨Int.natCast_nonneg k, rfl, rfl⟩

/-- **Cursors are in the order of lines and columns.** -/
theorem Placed.cursor_lt_iff {text : List Char} {p q : Position} (hp : Placed text p) (hq : Placed text q) :
    p.cursor < q.cursor ↔ p.Before q := by
  obtain ⟨j, rfl⟩ := placed_iff.1 hp
  obtain ⟨k, rfl⟩ := placed_iff.1 hq
  constructor
  · intro h
    exact placeAt_before text (Int.ofNat_lt.1 h)
  · intro h
    rcases Nat.lt_trichotomy j k with hjk | rfl | hkj
    · exact Int.ofNat_lt.2 hjk
    · exact absurd h (by unfold Position.Before; omega)
    · exact absurd (h.trans (placeAt_before text hkj)) (by unfold Position.Before; omega)

end Stylesheet
