import Mathlib.Algebra.Group.Nat.Defs
import Stylesheet.Text.Digits
import Stylesheet.Text.Layout
import Stylesheet.Proofs.Grammar

/-!
# Reading back numerals, codes and quoted text

Dumps write numbers in decimal and characters by hexadecimal codes, and put texts between quotes. Each
of these is found again at the beginning of any text that goes on with something else: an integer
(`takeInteger_append`), a code of a fixed width (`code?_hexPadded`), and a text between quotes
(`readQuoted_append`). For the last one it is enough that single characters are found again, whatever
way they are written in.
-/

namespace Stylesheet.Text

/-! ### Digits -/

theorem digitValue_digitChar {d : Nat} (h : d < 16) : digitValue d.digitChar = d := by
  have hall : ∀ d < 16, digitValue d.digitChar = d := by decide
  exact hall d h

/-- What holds of the digits of a base holds of all characters of a numeral. -/
theorem forall_mem_toDigits {base : Nat} (hbase : 1 < base) {P : Char → Prop} (h : ∀ d < base, P d.digitChar)
    (n : Nat) : ∀ c ∈ Nat.toDigits base n, P c := by
  induction n using Nat.strongRecOn with
  | _ n ih =>
    rw [Nat.toDigits_eq_if hbase]
    split
    · next hn => exact List.forall_mem_singleton.2 (h n hn)
    · next hn =>
      have hsmaller : n / base < n := Nat.div_lt_self (by omega) hbase
      exact List.forall_mem_append.2 ⟨ih _ hsmaller, List.forall_mem_singleton.2 (h _ (Nat.mod_lt _ (by omega)))⟩

theorem isDigit_of_mem_toDigits (n : Nat) : ∀ c ∈ Nat.toDigits 10 n, isDigit c = true :=
  forall_mem_toDigits (by omega) (by decide) n

/-- Only the numeral of zero begins with a zero. -/
theorem head?_toDigits_ne_zero {n : Nat} (hn : n ≠ 0) : (Nat.toDigits 10 n).head? ≠ some '0' := by
  induction n using Nat.strongRecOn with
  | _ n ih =>
    rw [Nat.toDigits_eq_if (by omega)]
    split
    · have hdigit : ∀ d < 10, d ≠ 0 → [d.digitChar].head? ≠ some '0' := by decide
      exact hdigit n (by assumption) hn
    · rw [List.head?_append_of_ne_nil _ Nat.toDigits_ne_nil]
      exact ih (n / 10) (by omega) (by omega)

/-! ### Numbers of digits -/

theorem numberOf_concat (base : Nat) (digits : List Char) (c : Char) :
    numberOf base (digits ++ [c]) = base * numberOf base digits + digitValue c := by
  simp [numberOf]

/-- **A numeral stands for its number**, in every base up to sixteen. -/
theorem numberOf_toDigits {base : Nat} (hbase : 1 < base) (hbase' : base ≤ 16) (n : Nat) :
    numberOf base (Nat.toDigits base n) = n := by
  induction n using Nat.strongRecOn with
  | _ n ih =>
    rw [Nat.toDigits_eq_if hbase]
    split
    · next hn =>
      rw [← List.nil_append [n.digitChar], numberOf_concat, digitValue_digitChar (by omega)]
      exact Nat.zero_add n
    · next hn =>
      have hsmaller : n / base < n := Nat.div_lt_self (by omega) hbase
      have hdigit : n % base < 16 := Nat.lt_of_lt_of_le (Nat.mod_lt _ (by omega)) hbase'
      rw [numberOf_concat, ih _ hsmaller, digitValue_digitChar hdigit, Nat.div_add_mod]

/-- Zeros in front make no difference. -/
theorem numberOf_zeros (base k : Nat) (digits : List Char) :
    numberOf base (List.replicate k '0' ++ digits) = numberOf base digits := by
  have hzero : digitValue '0' = 0 := rfl
  have hzeros : (List.replicate k '0').foldl (fun n c => base * n + digitValue c) 0 = 0 := by
    induction k with
    | zero => rfl
    | succ k ih =>
      rw [List.replicate_succ, List.foldl_cons, hzero]
      exact ih
  rw [numberOf, List.foldl_append, hzeros]
  rfl

/-! ### Codes -/

/-- The number that a given count of hexadecimal digits stands for, if a text begins with as many. -/
def code? (width : Nat) (text : List Char) : Option Nat :=
  let digits := text.take width
  if digits.length = width ∧ digits.all isHexDigit then some (numberOf 16 digits) else none

section

variable {width n : Nat}

theorem toList_hexPadded (width n : Nat) : (hexPadded width n).toList =
    List.replicate (width - (Nat.toDigits 16 n).length) '0' ++ Nat.toDigits 16 n :=
  String.toList_ofList

theorem length_hexPadded (hwidth : 0 < width) (h : n < 16 ^ width) : (hexPadded width n).toList.length = width := by
  have hlength := (Nat.length_toDigits_le_iff (b := 16) (by omega) hwidth).2 h
  rw [toList_hexPadded, List.length_append, List.length_replicate]
  omega

theorem forall_mem_hexPadded {P : Char → Prop} (h : ∀ d < 16, P d.digitChar) (width n : Nat) :
    ∀ c ∈ (hexPadded width n).toList, P c := by
  rw [toList_hexPadded]
  refine List.forall_mem_append.2 ⟨?_, forall_mem_toDigits (by omega) h n⟩
  intro c hc
  rw [List.eq_of_mem_replicate hc]
  exact h 0 (by omega)

/-- **A code of a fixed width is found again**, whatever follows it. -/
theorem code?_hexPadded (hwidth : 0 < width) (h : n < 16 ^ width) (rest : List Char) :
    code? width ((hexPadded width n).toList ++ rest) = some n := by
  have hlength := length_hexPadded hwidth h
  have htake : ((hexPadded width n).toList ++ rest).take width = (hexPadded width n).toList := List.take_left' hlength
  have hall : (hexPadded width n).toList.all isHexDigit :=
    List.all_eq_true.2 (forall_mem_hexPadded (by decide) width n)
  rw [code?, htake, if_pos ⟨hlength, hall⟩, toList_hexPadded, numberOf_zeros, numberOf_toDigits (by omega) (by omega)]

end

/-! ### Integers -/

/-- The integer that a text begins with, and the text behind it: a minus sign or none, and all digits
that follow. -/
def takeInteger : List Char → Int × List Char
  | '-' :: rest => (-(numberOf 10 (rest.takeWhile isDigit)), rest.dropWhile isDigit)
  | text => (numberOf 10 (text.takeWhile isDigit), text.dropWhile isDigit)

theorem toList_numeral (n : Nat) : (numeral n).toList = Nat.toDigits 10 n := String.toList_ofList

theorem toList_integer_negSucc (n : Nat) : (integer (.negSucc n)).toList = '-' :: Nat.toDigits 10 (n + 1) := by
  rw [integer, String.toList_append, toList_numeral]
  rfl

/-- What holds of the digits and of the minus sign holds of all characters of an integer. -/
theorem forall_mem_integer {P : Char → Prop} (h : ∀ d < 10, P d.digitChar) (hminus : P '-') (n : Int) :
    ∀ c ∈ (integer n).toList, P c := by
  cases n with
  | ofNat m =>
    rw [integer, toList_numeral]
    exact forall_mem_toDigits (by omega) h m
  | negSucc m =>
    rw [toList_integer_negSucc]
    exact List.forall_mem_cons.2 ⟨hminus, forall_mem_toDigits (by omega) h (m + 1)⟩

/-- An integer has no character but digits and a minus sign. -/
theorem not_mem_integer {c : Char} (hdigit : c.isDigit = false) (hminus : c ≠ '-') (n : Int) :
    c ∉ (integer n).toList := by
  have hdigits : ∀ d < 10, d.digitChar ≠ c := by
    have hall : ∀ d < 10, d.digitChar.isDigit = true := by decide
    rintro d hd rfl
    rw [hall d hd] at hdigit
    cases hdigit
  have hother : ∀ x ∈ (integer n).toList, x ≠ c := forall_mem_integer hdigits hminus.symm n
  exact fun h => hother c h rfl

theorem exists_cons_toDigits (n : Nat) : ∃ c cs, Nat.toDigits 10 n = c :: cs ∧ isDigit c = true := by
  obtain ⟨c, cs, hcons⟩ := List.exists_cons_of_ne_nil (Nat.toDigits_ne_nil (n := n) (b := 10))
  have hdigits := isDigit_of_mem_toDigits n
  rw [hcons, List.forall_mem_cons] at hdigits
  exact ⟨c, cs, hcons, hdigits.1⟩

/-- **An integer is found again** in front of anything but a digit. -/
theorem takeInteger_append (n : Int) {rest : List Char} (h : ∀ c ∈ rest.head?, isDigit c = false) :
    takeInteger ((integer n).toList ++ rest) = (n, rest) := by
  have htake := fun m => Lexeme.takeWhile_append_stop (isDigit_of_mem_toDigits m) h
  have hdrop := fun m => Lexeme.dropWhile_append_stop (isDigit_of_mem_toDigits m) h
  cases n with
  | ofNat m =>
    obtain ⟨c, cs, hcons, hdigit⟩ := exists_cons_toDigits m
    rw [integer, toList_numeral, hcons, List.cons_append, takeInteger, ← List.cons_append, ← hcons, htake, hdrop,
      numberOf_toDigits (by omega) (by omega)]
    · rfl
    · rintro more ⟨⟩
      cases hdigit
  | negSucc m =>
    rw [toList_integer_negSucc, List.cons_append, takeInteger, htake, hdrop, numberOf_toDigits (by omega) (by omega)]
    rfl

/-! ### Quoted text -/

/-- The characters up to a quote, and the text behind it. A reader of single characters tells the
character that a text begins with, and how many further characters of the text it takes. -/
def readQuoted (quote : Char) (first? : List Char → Option (Char × Nat)) (text : List Char) :
    Option (List Char × List Char) :=
  match text with
  | [] => none
  | c :: rest =>
    if c = quote then some ([], rest)
    else do
      let (x, further) ← first? (c :: rest)
      let (xs, behind) ← readQuoted quote first? (rest.drop further)
      return (x :: xs, behind)
termination_by text.length
decreasing_by simp only [List.length_drop, List.length_cons]; omega

/-- `Undoes first? quote written`: whatever a character is written as, the reader finds it again, and it
does not look like the quote. -/
structure Undoes (first? : List Char → Option (Char × Nat)) (quote : Char) (written : Char → List Char) : Prop where
  /-- The written form does not begin with the quote, nor is it empty. -/
  cons : ∀ x, ∃ c cs, written x = c :: cs ∧ c ≠ quote
  /-- The reader finds the character and takes its written form. -/
  first : ∀ x rest, first? (written x ++ rest) = some (x, (written x).length - 1)

/-- **A text between quotes is found again**, whatever follows it. -/
theorem readQuoted_append {first? : List Char → Option (Char × Nat)} {quote : Char} {written : Char → List Char}
    (h : Undoes first? quote written) (text rest : List Char) :
    readQuoted quote first? (text.flatMap written ++ quote :: rest) = some (text, rest) := by
  induction text with
  | nil =>
    rw [List.flatMap_nil, List.nil_append, readQuoted, if_pos rfl]
  | cons x text ih =>
    obtain ⟨c, cs, hcons, hc⟩ := h.cons x
    have hfirst := h.first x (text.flatMap written ++ quote :: rest)
    rw [hcons, List.cons_append, List.length_cons, Nat.add_sub_cancel] at hfirst
    rw [List.flatMap_cons, List.append_assoc, hcons, List.cons_append, readQuoted, if_neg hc, hfirst]
    simp only [bind, Option.bind, List.drop_left, ih]
    rfl

end Stylesheet.Text
