import Stylesheet.Proofs.Summary
import Mathlib.Algebra.BigOperators.Group.List.Basic
import Mathlib.Algebra.GroupWithZero.Nat

/-!
# A summary is a histogram of the types

Two lists of tokens have the same summary if and only if every type occurs as often in the one as in the
other (`summary_eq_iff`). So a summary shows nothing of the order, the values and the places of the tokens, and
it shows every count. The latter is seen by reading a summary back: `Tally.read?` takes the total from its first
line, and from each of the others the name of a type and the numeral behind it.

The counts of all types make up the length (`sum_countType`), and a type that has no line counts nothing
(`sum_map_filter_ne_zero`). So the counts that are printed make up the total that is printed.
-/

namespace Stylesheet

/-! ### Counting by type -/

/-- Each token is of one type, so the counts of all types make up the number of tokens. -/
theorem sum_countType (tokens : List Token) : (TokenType.all.map (countType · tokens)).sum = tokens.length := by
  induction tokens with
  | nil => rfl
  | cons t tokens ih =>
    have hcount : ∀ type, countType type (t :: tokens) = countType type tokens + if t.type == type then 1 else 0 :=
      fun type => List.countP_cons
    have hone : (TokenType.all.map fun type => if t.type == type then 1 else 0).sum = 1 := by
      cases t.type
      all_goals rfl
    simp only [hcount]
    rw [List.sum_map_add, ih, hone, List.length_cons]

/-- What counts nothing may be left out of a sum. -/
theorem sum_map_filter_ne_zero {α : Type} (f : α → Nat) (xs : List α) :
    ((xs.filter (f · ≠ 0)).map f).sum = (xs.map f).sum := by
  induction xs with
  | nil => rfl
  | cons x xs ih =>
    by_cases hx : f x = 0
    · rw [List.filter_cons_of_neg (by simpa using hx), List.map_cons, List.sum_cons, ih, hx, Nat.zero_add]
    · rw [List.filter_cons_of_pos (by simpa using hx), List.map_cons, List.map_cons, List.sum_cons, List.sum_cons, ih]

/-- A type occurs if and only if a token has it. -/
theorem countType_ne_zero_iff {type : TokenType} {tokens : List Token} :
    countType type tokens ≠ 0 ↔ ∃ t ∈ tokens, t.type = type := by
  rw [← Nat.pos_iff_ne_zero, countType, List.countP_pos_iff]
  simp only [beq_iff_eq]

/-- Equal counts are a permutation of the types. -/
theorem perm_map_type_iff {A B : List Token} :
    (A.map (·.type)).Perm (B.map (·.type)) ↔ ∀ type, countType type A = countType type B := by
  have hcount : ∀ tokens type, (tokens.map Token.type).count type = countType type tokens :=
    fun tokens type => List.countP_map
  simp only [List.perm_iff_count, hcount]

/-! ### Reading back a summary -/

/-- The number whose numeral a text begins with. -/
def Text.leadingNumber (text : List Char) : Nat := numberOf 10 (text.takeWhile isDigit)

theorem Text.leadingNumber_append (n : Nat) {rest : List Char} (h : ∀ c ∈ rest.head?, isDigit c = false) :
    leadingNumber ((numeral n).toList ++ rest) = n := by
  rw [leadingNumber, toList_numeral, Lexeme.takeWhile_append_stop (isDigit_of_mem_toDigits n) h,
    numberOf_toDigits (by omega) (by omega)]

/-- What a summary tells. -/
structure Tally where
  /-- The number of tokens. -/
  total : Nat
  /-- The types that have a line, each with its number. -/
  counts : List (TokenType × Nat)
  deriving DecidableEq, Repr

namespace Tally

/-- How often a type occurs; one that has no line does not. -/
def count (tally : Tally) (type : TokenType) : Nat := (tally.counts.lookup type).getD 0

/-- The type that a line of a summary is about, and the number behind its name. -/
def lineCount? (l : List Char) : Option (TokenType × Nat) :=
  (summaryType? l).map fun type => (type, Text.leadingNumber (Text.takeWord (l.drop 2)).2)

/-- What the text of a summary tells. Every line but the first has to be about a type. -/
def read? (text : String) : Option Tally :=
  match Text.lines text.toList with
  | [] => none
  | first :: others => (others.mapM lineCount?).map fun counts => ⟨Text.leadingNumber first, counts⟩

/-- The tally of some tokens: the types that occur, in listing order. -/
def ofTokens (tokens : List Token) : Tally :=
  ⟨tokens.length,
    (TokenType.all.filter (countType · tokens ≠ 0)).map fun type => (type, countType type tokens)⟩

theorem lineCount?_summaryBody (type : TokenType) (n : Nat) :
    lineCount? (summaryBody type n ++ ['\n']) = some (type, n) := by
  have hfeed : ∀ c ∈ ['\n'].head?, isDigit c = false := by
    rintro _ ⟨⟩
    rfl
  rw [lineCount?, summaryType?_summaryBody, takeWord_summaryBody, Text.leadingNumber_append n hfeed]
  rfl

/-- **A summary is read back** as the tally of its tokens. -/
theorem read?_summary (tokens : List Token) : read? (summary tokens) = some (ofTokens tokens) := by
  have htotal : Text.leadingNumber (summaryHead tokens.length ++ ['\n']) = tokens.length := by
    rw [summaryHead, List.append_assoc]
    refine Text.leadingNumber_append _ ?_
    rintro _ ⟨⟩
    rfl
  have hentries : ∀ types : List TokenType,
      (types.map fun type => summaryBody type (countType type tokens) ++ ['\n']).mapM lineCount? =
        some (types.map fun type => (type, countType type tokens)) := by
    intro types
    rw [List.mapM_map]
    simp only [Function.comp_def, lineCount?_summaryBody]
    exact List.mapM_pure
  rw [read?, lines_summary]
  simp only [hentries, htotal]
  rfl

/-- `Counts tally tokens`: the tally tells how many tokens there are, and how many of each type. -/
structure Counts (tally : Tally) (tokens : List Token) : Prop where
  /-- The total is the number of tokens. -/
  total : tally.total = tokens.length
  /-- It is also the sum of the numbers of the types. -/
  sum : (tally.counts.map (·.2)).sum = tally.total
  /-- The types that have a number are those that occur, each once and in listing order. -/
  types : tally.counts.map (·.1) = TokenType.all.filter fun type => tokens.any (·.type == type)
  /-- Each type occurs as often as the tally says. -/
  count : ∀ type, tally.count type = countType type tokens

theorem count_ofTokens (tokens : List Token) (type : TokenType) :
    (ofTokens tokens).count type = countType type tokens := by
  by_cases h : countType type tokens = 0
  · have hnone : (ofTokens tokens).counts.lookup type = none := by
      rw [List.lookup_eq_none_iff, ofTokens, List.forall_mem_map]
      intro type' htype'
      have hne : countType type' tokens ≠ 0 := by simpa using (List.mem_filter.1 htype').2
      refine bne_iff_ne.2 ?_
      rintro rfl
      exact hne h
    rw [count, hnone, h]
    rfl
  · have hmem : type ∈ TokenType.all.filter (countType · tokens ≠ 0) :=
      List.mem_filter.2 ⟨type.mem_all, by simpa using h⟩
    rw [count, ofTokens, List.lookup_graph (fun type => countType type tokens) hmem]
    rfl

theorem counts_ofTokens (tokens : List Token) : (ofTokens tokens).Counts tokens where
  total := rfl
  sum := by
    rw [ofTokens, List.map_map]
    exact (sum_map_filter_ne_zero (countType · tokens) TokenType.all).trans (sum_countType tokens)
  types := by
    rw [ofTokens, List.map_map]
    simp only [Function.comp_def, List.map_id']
    refine List.filter_congr fun type _ => ?_
    rw [Bool.eq_iff_iff, decide_eq_true_iff, List.any_eq_true, countType_ne_zero_iff]
    simp only [beq_iff_eq]
  count := count_ofTokens tokens

end Tally

/-! ### The histogram -/

/-- Equal counts make equal summaries: the number of all tokens is the sum of the counts. -/
theorem summary_congr {A B : List Token} (h : ∀ type, countType type A = countType type B) : summary A = summary B := by
  have hlength : A.length = B.length := by
    rw [← sum_countType, ← sum_countType]
    simp only [h]
  have hlines : summaryLine A = summaryLine B := by
    funext type
    rw [summaryLine, summaryLine, h]
  rw [summary, summary, hlength, hlines]

/-- **A summary is exactly the histogram of the types.** Two lists of tokens have the same summary if and only
if every type occurs as often in one as in the other, which is to say that their types are the same but for
the order. And what a summary tells, read back from its text, is the number of tokens and that of each type: the
total is the number of all, and the sum of those printed, and there is one line for each type that occurs. -/
theorem summary_eq_iff (A B : List Token) :
    (summary A = summary B ↔ ∀ type, countType type A = countType type B) ∧
      (summary A = summary B ↔ (A.map (·.type)).Perm (B.map (·.type))) ∧
      ∃ tally, Tally.read? (summary A) = some tally ∧ tally.Counts A := by
  have hcounts : summary A = summary B ↔ ∀ type, countType type A = countType type B := by
    constructor
    · intro h type
      have hread := Tally.read?_summary A
      rw [h, Tally.read?_summary B, Option.some.injEq] at hread
      rw [← Tally.count_ofTokens, ← Tally.count_ofTokens, hread]
    · exact summary_congr
  refine ⟨hcounts, hcounts.trans perm_map_type_iff.symm, ?_⟩
  exact ⟨Tally.ofTokens A, Tally.read?_summary A, Tally.counts_ofTokens A⟩

end Stylesheet
