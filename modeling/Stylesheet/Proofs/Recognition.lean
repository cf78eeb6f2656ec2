import Stylesheet.Proofs.Grammar
import Stylesheet.Proofs.ModeScan
import Stylesheet.Proofs.Tiling

/-!
# The reader finds nothing but the grammar

Every well-formed lexeme is found in front of a text that ends it (`first?_append`). Here is the
converse: what the reader finds is well formed (`wellFormed_of_first?`), and what follows it ends
it (`ends_of_first?`). Together they say without the reader which lexeme a text begins with
(`first?_append_iff`), and so how much of the text behind a lexeme matters to it: as much as
`Lexeme.Ends` looks at.
-/

namespace Stylesheet

namespace Lexeme

/-! ### Where the reader stops -/

/-- A run of a class stops before a character that is not in it. -/
theorem run_stops {p : Char → Bool} {cs rest : List Char} (h : cs = cs.takeWhile p ++ rest) :
    ∀ d ∈ rest.head?, p d = false := by
  have hrest : rest = cs.dropWhile p := by
    refine (List.append_right_inj (cs.takeWhile p)).1 ?_
    rw [← h, List.takeWhile_append_dropWhile]
  intro d hd
  have hstop := List.head?_dropWhile_not p cs
  rw [← hrest, show rest.head? = some d from hd] at hstop
  exact hstop

theorem isNumber_numberRun {c : Char} {cs : List Char} (h : isDigit c || (c == '.' && cs.head?.any isDigit)) :
    IsNumber (numberRun (c :: cs)) := by
  have hdigits : ∀ (l : List Char), ∀ d ∈ l.takeWhile isDigit, isDigit d = true :=
    fun _ _ hd => List.mem_takeWhile_imp hd
  by_cases hc : isDigit c = true
  · -- digits come first, and then a point or not
    have hne : (c :: cs).takeWhile isDigit ≠ [] := by
      rw [List.takeWhile_cons_of_pos hc]
      exact List.cons_ne_nil _ _
    rw [numberRun]
    split
    · next rest _ => exact ⟨_, _, hdigits _, hdigits rest, .inr (.inl ⟨hne, rfl⟩)⟩
    · exact ⟨_, [], hdigits _, List.forall_mem_nil _, .inl ⟨hne, List.append_nil _⟩⟩
  · obtain ⟨rfl, hnext⟩ : c = '.' ∧ cs.head?.any isDigit = true := by simpa [hc] using h
    obtain ⟨d, ds, rfl, hd⟩ : ∃ d ds, cs = d :: ds ∧ isDigit d = true := by
      cases cs with
      | nil => cases hnext
      | cons d ds => exact ⟨d, ds, rfl, hnext⟩
    have hne : (d :: ds).takeWhile isDigit ≠ [] := by
      rw [List.takeWhile_cons_of_pos hd]
      exact List.cons_ne_nil _ _
    exact ⟨[], _, List.forall_mem_nil _, hdigits (d :: ds), .inr (.inr ⟨hne, rfl⟩)⟩

/-- A number stops before a digit never, and before a point only if it has one. -/
theorem numberRun_stops {text rest : List Char} (h : text = numberRun text ++ rest) :
    ∀ d ∈ rest.head?, isDigit d = false ∧ (d = '.' → '.' ∈ numberRun text) := by
  have hsplit := List.takeWhile_append_dropWhile (p := isDigit) (l := text)
  rw [numberRun] at h ⊢
  split at h
  · next more hmore =>
    -- behind the point the run of digits stops
    rw [hmore] at hsplit
    have hpoint : '.' :: more = '.' :: more.takeWhile isDigit ++ rest := by
      refine (List.append_right_inj (text.takeWhile isDigit)).1 ?_
      rw [hsplit, ← List.append_assoc]
      exact h
    intro d hd
    exact ⟨run_stops (List.cons.inj hpoint).2 d hd, fun _ => List.mem_append_right _ List.mem_cons_self⟩
  · next hpoint =>
    rw [List.append_nil] at h
    have hrest : text.dropWhile isDigit = rest := by
      refine (List.append_right_inj (text.takeWhile isDigit)).1 ?_
      rw [hsplit, ← h]
    intro d hd
    refine ⟨run_stops h d hd, ?_⟩
    rintro rfl
    obtain ⟨more, hmore⟩ := List.head?_eq_some_iff.1 hd
    exact absurd (hrest.trans hmore) (hpoint more)

theorem colorDigits?_eq_some {text digits : List Char} (h : colorDigits? text = some digits) :
    (digits.length = 3 ∨ digits.length = 6) ∧ digits = (text.take 7).takeWhile isHexDigit := by
  simp only [colorDigits?] at h
  split at h
  · next hlength =>
    cases h
    exact ⟨hlength, rfl⟩
  · cases h

/-- A colour stops before a character that is no hexadecimal digit: seven are looked at, and it
has at most six. -/
theorem colorDigits?_stops {rest digits : List Char} (h : colorDigits? (digits ++ rest) = some digits) :
    ∀ d ∈ rest.head?, isHexDigit d = false := by
  obtain ⟨hlength, hdigits⟩ := colorDigits?_eq_some h
  have htake : (digits ++ rest).take 7 = digits ++ rest.take (7 - digits.length) := by
    rw [List.take_append, List.take_of_length_le (by omega)]
  have hrun : (digits ++ rest).take 7 = ((digits ++ rest).take 7).takeWhile isHexDigit ++ rest.take (7 - digits.length) := by
    rw [← hdigits]
    exact htake
  have hhead : (rest.take (7 - digits.length)).head? = rest.head? := by
    rw [List.head?_take, if_neg (by omega)]
  rw [← hhead]
  exact run_stops hrun

/-- The body of a block comment does not hold its closer. -/
theorem not_infix_blockBody (text : List Char) : ¬ ['*', '/'] <:+: (blockBody text).1 := by
  fun_induction blockBody text with
  | case1 => decide
  | case2 rest => decide
  | case3 c cs hopen body closed hb ih =>
    rw [hb] at ih
    have hbody : body <+: cs := by
      have hprefix := blockBody_isPrefix cs
      rw [hb] at hprefix
      exact (List.prefix_append body _).trans hprefix
    intro hin
    rcases List.infix_cons_iff.1 hin with hstart | hin
    · obtain ⟨rfl, hslash⟩ := List.cons_prefix_cons.1 hstart
      obtain ⟨more, rfl⟩ := hslash.trans hbody
      exact hopen more rfl rfl
    · exact ih hin

/-- The body of a string is made of characters and escapes; without its second quote it may also
end in the middle of an escape. -/
theorem quotedText_quotedBody (quote : Char) (text : List Char) :
    QuotedText quote (quotedBody quote text).1 ∨ (quotedBody quote text).2 = false ∧
      ∃ start, QuotedText quote start ∧ (quotedBody quote text).1 = start ++ ['\\'] := by
  fun_induction quotedBody quote text with
  | case1 => exact .inl .nil
  | case2 d cs body closed hb ih =>
    rw [hb] at ih
    rcases ih with hbody | ⟨hopen, start, hstart, rfl⟩
    · exact .inl (.escape hbody)
    · exact .inr ⟨hopen, '\\' :: d :: start, .escape hstart, rfl⟩
  | case3 cs _ => exact .inl .nil
  | case4 c cs hesc hc body closed hb ih =>
    rw [hb] at ih
    by_cases hslash : c = '\\'
    · -- a backslash that escapes nothing is the last character
      subst hslash
      cases cs with
      | nil =>
        cases hb
        exact .inr ⟨rfl, [], .nil, rfl⟩
      | cons d ds => exact absurd rfl (hesc d ds rfl)
    · rcases ih with hbody | ⟨hopen, start, hstart, rfl⟩
      · exact .inl (.char hslash hc hbody)
      · exact .inr ⟨hopen, c :: start, .char hslash hc hstart, rfl⟩

end Lexeme

namespace Opening

open Lexeme

variable {c : Char} {cs : List Char}

/-! ### What an opening leads to -/

theorem ne_hash_of_of? {next : Option Char} (h : of? c next = some .punctuation) : c ≠ '#' := by
  rintro rfl
  cases h

theorem not_isDigit_of_of? {d : Char} (h : of? '.' (some d) = some .punctuation) : isDigit d = false := by
  rw [← Bool.not_eq_true]
  intro hd
  rw [of?_point hd] at h
  cases h

theorem wellFormed_hash (cs : List Char) : (hash.lexeme '#' cs).WellFormed := by
  simp only [lexeme]
  split
  · next digits hdigits =>
    obtain ⟨hlength, -⟩ := colorDigits?_eq_some hdigits
    exact ⟨hlength, fun d hd => isHexDigit_of_mem_colorDigits? hdigits hd⟩
  · exact (rfl : isPunctuation '#' = true)

theorem isOperator_lexeme (h : isOperator c = true) (cs : List Char) :
    IsOperator (if isRepeatable c then c :: cs.takeWhile (· == c) else [c]) := by
  refine ⟨c, h, ?_⟩
  by_cases hc : isRepeatable c = true
  · rw [if_pos hc]
    refine .inr ⟨hc, (cs.takeWhile (· == c)).length, ?_⟩
    rw [List.replicate_succ, List.cons.injEq, List.eq_replicate_iff]
    exact ⟨rfl, rfl, fun d hd => beq_iff_eq.1 (List.mem_takeWhile_imp (p := (· == c)) hd)⟩
  · rw [if_neg hc]
    exact .inl ⟨eq_false_of_ne_true hc, rfl⟩

/-- An opening leads to a well-formed lexeme. -/
theorem wellFormed_lexeme {o : Opening} (h : o.fits c cs.head?) : (o.lexeme c cs).WellFormed := by
  cases o with
  | blank =>
    refine ⟨List.cons_ne_nil _ _, List.forall_mem_cons.2 ⟨h, ?_⟩⟩
    intro d hd
    exact List.mem_takeWhile_imp hd
  | lineComment =>
    intro hin
    have hfeed : (!isLineBreak '\n') = true := List.mem_takeWhile_imp (p := (!isLineBreak ·)) hin
    exact absurd hfeed (by decide)
  | blockComment => exact not_infix_blockBody cs.tail
  | number => exact isNumber_numberRun h
  | hash =>
    obtain rfl : c = '#' := by simpa [fits] using h
    exact wellFormed_hash cs
  | punctuation => exact h
  | identifier => exact ⟨c, cs.takeWhile isIdentChar, rfl, h, fun d hd => List.mem_takeWhile_imp hd⟩
  | operator => exact isOperator_lexeme h cs
  | quoted q => exact quotedText_quotedBody q.char cs
  | atRule => exact fun d hd => List.mem_takeWhile_imp hd
  | variableName => exact fun d hd => List.mem_takeWhile_imp hd

theorem ends_hash {rest : List Char} (h : '#' :: cs = (hash.lexeme '#' cs).spelling ++ rest) :
    (hash.lexeme '#' cs).Ends rest := by
  simp only [lexeme] at h ⊢
  split at h
  · next digits hdigits =>
    obtain ⟨-, rfl⟩ := List.cons.inj h
    exact colorDigits?_stops hdigits
  · next hnone =>
    obtain ⟨-, rfl⟩ := List.cons.inj h
    exact ⟨fun hpoint => absurd hpoint (by decide), fun _ => hnone⟩

theorem ends_operator {rest : List Char} (ho : of? c cs.head? = some .operator)
    (h : c :: cs = (operator.lexeme c cs).spelling ++ rest) : (operator.lexeme c cs).Ends rest := by
  simp only [lexeme] at h ⊢
  by_cases hc : isRepeatable c = true
  · rw [if_pos hc] at h ⊢
    obtain ⟨-, hrun⟩ := List.cons.inj h
    constructor
    · -- the run would have taken another copy
      intro d hd _ hmem
      have hsame : d = c := by
        rcases List.mem_cons.1 hmem with rfl | hmem
        · rfl
        · exact beq_iff_eq.1 (List.mem_takeWhile_imp (p := (· == c)) hmem)
      exact beq_eq_false_iff_ne.1 (run_stops (p := (· == c)) hrun d hd) hsame
    · intro hslash
      rw [(List.cons.inj hslash).1] at hc
      cases hc
  · rw [if_neg hc] at h ⊢
    obtain ⟨-, rfl⟩ := List.cons.inj h
    constructor
    · intro d _ hd hmem
      rw [List.mem_singleton.1 hmem] at hd
      exact hc hd
    · intro hslash d hd
      rw [(List.cons.inj hslash).1] at ho
      obtain ⟨hline, hblock⟩ := of?_slash_operator ho
      exact ⟨fun hd' => hline (hd.trans (congrArg some hd')), fun hd' => hblock (hd.trans (congrArg some hd'))⟩

/-- What is left behind the lexeme of an opening ends it. -/
theorem ends_lexeme {o : Opening} {rest : List Char} (ho : of? c cs.head? = some o)
    (h : c :: cs = (o.lexeme c cs).spelling ++ rest) : (o.lexeme c cs).Ends rest := by
  have hfits := fits_of_of? ho
  -- an unclosed lexeme takes all the text
  have hopen : (o.lexeme c cs).closed = false → rest = [] := by
    intro hclosed
    have hall := spelling_eq_of_not_closed (first?_eq_some_iff.2 ⟨c, cs, o, rfl, ho, rfl⟩) hclosed
    rw [hall] at h
    exact List.append_right_eq_self.1 h.symm
  cases o with
  | blank => exact run_stops (List.cons.inj h).2
  | lineComment =>
    obtain ⟨rfl, hs⟩ : c = '/' ∧ cs.head? = _ := by simpa [fits] using hfits
    obtain ⟨more, rfl⟩ := List.head?_eq_some_iff.1 hs
    have hrun : more = more.takeWhile (!isLineBreak ·) ++ rest := (List.cons.inj (List.cons.inj h).2).2
    intro d hd
    have hfeed := run_stops hrun d hd
    simpa [isLineBreak] using hfeed
  | blockComment => exact hopen
  | number => exact numberRun_stops h
  | hash =>
    obtain rfl : c = '#' := by simpa [fits] using hfits
    exact ends_hash h
  | punctuation =>
    obtain ⟨-, rfl⟩ := List.cons.inj h
    refine ⟨?_, fun hhash => absurd hhash (ne_hash_of_of? ho)⟩
    rintro rfl d hd
    rw [show cs.head? = some d from hd] at ho
    exact not_isDigit_of_of? ho
  | identifier => exact run_stops (List.cons.inj h).2
  | operator => exact ends_operator ho h
  | quoted q => exact hopen
  | atRule => exact run_stops (List.cons.inj h).2
  | variableName => exact run_stops (List.cons.inj h).2

end Opening

namespace Lexeme

/-! ### The grammar is exact -/

/-- The reader finds only well-formed lexemes. -/
theorem wellFormed_of_first? {text : List Char} {l : Lexeme} (h : first? text = some l) : l.WellFormed := by
  obtain ⟨c, cs, o, rfl, ho, rfl⟩ := first?_eq_some_iff.1 h
  exact Opening.wellFormed_lexeme (Opening.fits_of_of? ho)

/-- The reader finds a lexeme only where it ends. -/
theorem ends_of_first? {l : Lexeme} {rest : List Char} (h : first? (l.spelling ++ rest) = some l) : l.Ends rest := by
  obtain ⟨c, cs, o, htext, ho, rfl⟩ := first?_eq_some_iff.1 h
  exact Opening.ends_lexeme ho htext.symm

/-- **Which lexeme a text begins with**: one that is well formed and ends there. -/
theorem first?_append_iff {l : Lexeme} {rest : List Char} :
    first? (l.spelling ++ rest) = some l ↔ l.WellFormed ∧ l.Ends rest := by
  constructor
  · intro h
    exact ⟨wellFormed_of_first? h, ends_of_first? h⟩
  · rintro ⟨hl, hr⟩
    exact first?_append hl hr

end Lexeme

end Stylesheet
