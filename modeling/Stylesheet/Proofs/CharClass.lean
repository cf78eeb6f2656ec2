import Stylesheet.CharClass

/-!
# How the character classes lie to each other

The reader tries its kinds of lexeme in a fixed order, and most of that order is of no
consequence because the classes of characters they begin with are disjoint. This module lists
the members of the small classes, and keeps apart those that a proof has to tell from each other.
-/

namespace Stylesheet

variable {c : Char}

/-! ### Members -/

theorem isBlank_iff : isBlank c = true ↔ c = '\t' ∨ c = '\n' ∨ c = ' ' := by
  simp [isBlank, or_assoc]

theorem isPunctuation_iff : isPunctuation c = true ↔ c = ',' ∨ c = ';' ∨ c = '(' ∨ c = ')' ∨ c = '\x7b' ∨ c = '\x7d' ∨
    c = '[' ∨ c = ']' ∨ c = ':' ∨ c = '#' ∨ c = '.' := by
  simp [isPunctuation]

theorem isOperator_iff : isOperator c = true ↔ c = '+' ∨ c = '-' ∨ c = '*' ∨ c = '/' ∨ c = '%' ∨ c = '=' ∨ c = '&' ∨
    c = '|' ∨ c = '!' ∨ c = '~' ∨ c = '>' ∨ c = '<' ∨ c = '^' := by
  simp [isOperator]

theorem isDigit_iff : isDigit c = true ↔ 48 ≤ c.toNat ∧ c.toNat ≤ 57 := by
  rw [isDigit, Bool.and_eq_true, decide_eq_true_eq, decide_eq_true_eq]
  rfl

theorem isLetter_iff : isLetter c = true ↔ 97 ≤ c.toNat ∧ c.toNat ≤ 122 ∨ 65 ≤ c.toNat ∧ c.toNat ≤ 90 := by
  rw [isLetter, Bool.or_eq_true, Bool.and_eq_true, Bool.and_eq_true, decide_eq_true_eq, decide_eq_true_eq,
    decide_eq_true_eq, decide_eq_true_eq]
  rfl

/-- The operators that repeat are operators. -/
theorem isOperator_of_isRepeatable (h : isRepeatable c = true) : isOperator c = true := by
  obtain rfl | rfl | rfl : c = '&' ∨ c = '|' ∨ c = '=' := by simpa [isRepeatable] using h
  all_goals rfl

/-! ### Classes kept apart -/

/-- A member of a class differs from whatever is not in it. -/
theorem ne_of_class {p : Char → Bool} {d : Char} (hc : p c = true) (hd : p d = false) : c ≠ d := by
  rintro rfl
  rw [hc] at hd
  cases hd

theorem isBlank_eq_false {p : Char → Bool} (hc : p c = true) (ht : p '\t' = false) (hn : p '\n' = false)
    (hs : p ' ' = false) : isBlank c = false := by
  rw [← Bool.not_eq_true, isBlank_iff]
  rintro (rfl | rfl | rfl)
  · exact ne_of_class hc ht rfl
  · exact ne_of_class hc hn rfl
  · exact ne_of_class hc hs rfl

theorem isDigit_eq_false_of_isIdentStart (h : isIdentStart c = true) : isDigit c = false := by
  rw [← Bool.not_eq_true, isDigit_iff]
  rintro ⟨-, hd⟩
  rcases Bool.or_eq_true_iff.1 h with h | h
  · rw [isLetter_iff] at h
    omega
  · obtain rfl : c = '_' := by simpa using h
    exact absurd hd (by decide)

theorem isPunctuation_eq_false_of_isIdentStart (h : isIdentStart c = true) : isPunctuation c = false := by
  rw [← Bool.not_eq_true, isPunctuation_iff]
  rintro (rfl | rfl | rfl | rfl | rfl | rfl | rfl | rfl | rfl | rfl | rfl) <;> exact absurd h (by decide)

/-- A hexadecimal digit that is no decimal one is a letter. -/
theorem isLetter_of_isHexDigit (h : isHexDigit c = true) (hd : isDigit c = false) : isLetter c = true := by
  simp only [isHexDigit, hd, isLetter, Bool.or_eq_true, Bool.and_eq_true, decide_eq_true_eq, Bool.false_eq_true,
    false_or] at h ⊢
  rcases h with h | h
  · exact .inl ⟨h.1, Char.le_trans h.2 (by decide)⟩
  · exact .inr ⟨h.1, Char.le_trans h.2 (by decide)⟩

/-- What goes on behind a blank: neither a number, a colour, a name or a run of operators, nor the
two characters that open a comment. -/
theorem classes_of_isBlank (h : isBlank c = true) :
    isDigit c = false ∧ isHexDigit c = false ∧ isIdentChar c = false ∧ isRepeatable c = false ∧ c ≠ '.' ∧ c ≠ '/' ∧
      c ≠ '*' := by
  rcases isBlank_iff.1 h with rfl | rfl | rfl <;> decide

end Stylesheet
