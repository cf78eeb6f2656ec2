import Stylesheet.Proofs.Recognition
import Stylesheet.Proofs.TokenAt

/-!
# Tokens without delimiters, and the hash

The classes that tokens begin with overlap: a point begins numbers and is punctuation, a hyphen is an
operator and goes on an identifier, a digit goes on an identifier and does not begin one. The reader
settles this by the order in which it tries the kinds, and each kind by a loop of its own. Without
either, `Undelimited` is a table: it says for each type which text makes a token of it and in front of
which character. At most one row of the table and one end fit at an index, the reader finds them, and
where none fits it fails (`readToken_undelimited`).

A hash opens a colour or stands alone. The reader looks at seven characters to decide it; it comes to
the same as measuring the whole run of hexadecimal digits, however long (`tokenAt_hash`).
-/

namespace Stylesheet

open Lexeme Input

/-! ### The hash -/

/-- How many hexadecimal digits stand one behind the other from an index on. -/
def hexRun (text : List Char) (i : Nat) : Nat := ((text.drop i).takeWhile isHexDigit).length

theorem extract_hexRun (text : List Char) (i : Nat) :
    text.extract i (i + hexRun text i) = (text.drop i).takeWhile isHexDigit :=
  extract_of_isPrefix (List.takeWhile_prefix isHexDigit)

theorem length_extract_hexRun (text : List Char) (i : Nat) :
    (text.extract i (i + hexRun text i)).length = hexRun text i := by
  rw [extract_hexRun, hexRun]

/-- Seven characters are enough to tell whether a run of digits has the length of a colour. -/
theorem colorDigits?_eq (text : List Char) :
    colorDigits? text =
      if (text.takeWhile isHexDigit).length = 3 ∨ (text.takeWhile isHexDigit).length = 6 then
        some (text.takeWhile isHexDigit)
      else none := by
  simp only [colorDigits?, ← List.take_takeWhile, List.length_take]
  by_cases h : (text.takeWhile isHexDigit).length = 3 ∨ (text.takeWhile isHexDigit).length = 6
  · rw [if_pos h, if_pos (by omega), List.take_of_length_le (by omega)]
  · rw [if_neg h, if_neg (by omega)]

theorem first?_hash {text : List Char} {i : Nat} (h : text[i]? = some '#') :
    first? (text.drop i) = some (if hexRun text (i + 1) = 3 ∨ hexRun text (i + 1) = 6 then
      .color (text.extract (i + 1) (i + 1 + hexRun text (i + 1))) else .punctuation '#') := by
  rw [drop_of_getElem? h]
  refine first?_cons (o := .hash) rfl ?_
  rw [Opening.lexeme, colorDigits?_eq, extract_hexRun, hexRun]
  by_cases hlength : ((text.drop (i + 1)).takeWhile isHexDigit).length = 3 ∨
      ((text.drop (i + 1)).takeWhile isHexDigit).length = 6
  · rw [if_pos hlength, if_pos hlength]
  · rw [if_neg hlength, if_neg hlength]

/-- **What a hash opens.** With exactly three or six hexadecimal digits behind it, it opens a colour,
which they are the value of. With any other number of them it is a token by itself, and what follows
is read from there on. -/
theorem tokenAt_hash {source : String} {i : Nat} (h : source.toList[i]? = some '#') :
    (hexRun source.toList (i + 1) = 3 ∨ hexRun source.toList (i + 1) = 6 →
      TokenAt source i .colorHex (source.toList.extract (i + 1) (i + 1 + hexRun source.toList (i + 1)))
        (i + 1 + hexRun source.toList (i + 1))) ∧
    (¬ (hexRun source.toList (i + 1) = 3 ∨ hexRun source.toList (i + 1) = 6) →
      TokenAt source i .punctuation ['#'] (i + 1) ∧
      ((Input.ofSource source).skip i).drain.tokens =
        ⟨.punctuation, "#", placeAt source.toList i, placeAt source.toList (i + 1)⟩ ::
          ((Input.ofSource source).skip (i + 1)).drain.tokens) := by
  have hfirst := first?_hash h
  constructor
  · intro hcolor
    rw [if_pos hcolor] at hfirst
    have hat := tokenAt_of_first? hfirst
    have hend : i + (hexRun source.toList (i + 1) + 1) = i + 1 + hexRun source.toList (i + 1) := by omega
    rw [spelling, List.length_cons, length_extract_hexRun, hend] at hat
    exact hat
  · intro hother
    rw [if_neg hother] at hfirst
    have hat : TokenAt source i .punctuation ['#'] (i + 1) := tokenAt_of_first? hfirst
    exact ⟨hat, hat.drain⟩

/-- Seven digits are one too many. -/
theorem tokenAt_hash_seven :
    "#a1b2c3d".toList[0]? = some '#' ∧ ¬ (hexRun "#a1b2c3d".toList 1 = 3 ∨ hexRun "#a1b2c3d".toList 1 = 6) ∧
      TokenAt "#a1b2c3d" 0 .punctuation ['#'] 1 := by
  have hother : ¬ (hexRun "#a1b2c3d".toList 1 = 3 ∨ hexRun "#a1b2c3d".toList 1 = 6) := by decide
  exact ⟨rfl, hother, ((tokenAt_hash rfl).2 hother).1⟩

/-! ### The table -/

/-- The tokens that have no delimiters: a type, the text, the value, and the character behind it. -/
inductive Undelimited (next : Option Char) : TokenType → List Char → List Char → Prop where
  /-- Blanks, up to another character. -/
  | space {run : List Char} : run ≠ [] → (∀ c ∈ run, isBlank c = true) → (∀ c ∈ next, isBlank c = false) →
      Undelimited next .space run run
  /-- Digits with at most one point, up to a character that is no digit, and no point if there was none. -/
  | number {text : List Char} : IsNumber text →
      (∀ c ∈ next, isDigit c = false ∧ (c = '.' → '.' ∈ text)) → Undelimited next .number text text
  /-- A letter or an underscore and what may follow in a name. -/
  | identifier {c : Char} {cs : List Char} : isIdentStart c = true → (∀ d ∈ cs, isIdentChar d = true) →
      (∀ d ∈ next, isIdentChar d = false) → Undelimited next .identifier (c :: cs) (c :: cs)
  /-- An at sign and a name that may be empty. -/
  | atRule {name : List Char} : (∀ c ∈ name, isIdentChar c = true) → (∀ c ∈ next, isIdentChar c = false) →
      Undelimited next .atRule ('@' :: name) name
  /-- A dollar sign and a name that may be empty. -/
  | variableName {name : List Char} : (∀ c ∈ name, isIdentChar c = true) → (∀ c ∈ next, isIdentChar c = false) →
      Undelimited next .variableName ('$' :: name) name
  /-- Copies of an operator character that repeats, up to another character. -/
  | repeated {c : Char} {n : Nat} : isRepeatable c = true → next ≠ some c →
      Undelimited next .operator (List.replicate (n + 1) c) (List.replicate (n + 1) c)
  /-- One operator character that does not repeat. -/
  | operator {c : Char} : isOperator c = true → isRepeatable c = false → Undelimited next .operator [c] [c]
  /-- One character of punctuation; a point only where no digit follows. -/
  | punctuation {c : Char} : isPunctuation c = true → (c = '.' → ∀ d ∈ next, isDigit d = false) →
      Undelimited next .punctuation [c] [c]

/-- `Bare text`: no delimiter stands at the beginning of the text. -/
structure Bare (text : List Char) : Prop where
  /-- No hash. -/
  hash : text.head? ≠ some '#'
  /-- No quote. -/
  quote : ∀ q : Quote, text.head? ≠ some q.char
  /-- No opener of a comment that ends with its line. -/
  lineComment : ¬ ['/', '/'] <+: text
  /-- No opener of a comment that has to be closed. -/
  blockComment : ¬ ['/', '*'] <+: text

variable {type : TokenType} {raw value rest : List Char}

/-- A row of the table is a lexeme of the grammar that ends there. -/
theorem Undelimited.exists_lexeme (h : Undelimited rest.head? type raw value) (hbare : Bare (raw ++ rest)) :
    ∃ l : Lexeme, l.type = type ∧ l.spelling = raw ∧ l.value = value ∧ l.WellFormed ∧ l.Ends rest := by
  cases h with
  | space hne hrun hnext => exact ⟨.space raw, rfl, rfl, rfl, ⟨hne, hrun⟩, hnext⟩
  | number htext hnext => exact ⟨.number raw, rfl, rfl, rfl, htext, hnext⟩
  | @identifier c cs hc hcs hnext => exact ⟨.identifier (c :: cs), rfl, rfl, rfl, ⟨c, cs, rfl, hc, hcs⟩, hnext⟩
  | atRule hname hnext => exact ⟨.atRule value, rfl, rfl, rfl, hname, hnext⟩
  | variableName hname hnext => exact ⟨.variableName value, rfl, rfl, rfl, hname, hnext⟩
  | @repeated c n hc hnext =>
    have htext : IsOperator (List.replicate (n + 1) c) := ⟨c, isOperator_of_isRepeatable hc, .inr ⟨hc, n, rfl⟩⟩
    refine ⟨.operator (List.replicate (n + 1) c), rfl, rfl, rfl, htext, ?_, ?_⟩
    · intro d hd _ hmem
      rw [(List.mem_replicate.1 hmem).2] at hd
      exact hnext hd
    · intro hslash
      rw [List.replicate_succ] at hslash
      obtain ⟨rfl, -⟩ := List.cons.inj hslash
      cases hc
  | @operator c hc hsingle =>
    refine ⟨.operator [c], rfl, rfl, rfl, ⟨c, hc, .inl ⟨hsingle, rfl⟩⟩, ?_, ?_⟩
    · intro d _ hd hmem
      rw [List.mem_singleton.1 hmem, hsingle] at hd
      cases hd
    · intro hslash d hd
      obtain ⟨rfl, -⟩ := List.cons.inj hslash
      obtain ⟨more, rfl⟩ := List.head?_eq_some_iff.1 hd
      constructor
      · rintro rfl
        exact hbare.lineComment (List.prefix_append ['/', '/'] more)
      · rintro rfl
        exact hbare.blockComment (List.prefix_append ['/', '*'] more)
  | @punctuation c hc hpoint =>
    refine ⟨.punctuation c, rfl, rfl, rfl, hc, hpoint, ?_⟩
    rintro rfl
    exact absurd rfl hbare.hash

/-- A lexeme that begins with no delimiter is a row of the table. -/
theorem undelimited_of_lexeme {l : Lexeme} (hl : l.WellFormed) (hr : l.Ends rest) (hbare : Bare (l.spelling ++ rest)) :
    Undelimited rest.head? l.type l.spelling l.value := by
  cases l with
  | space run => exact .space hl.1 hl.2 hr
  | lineComment body => exact absurd (List.prefix_append ['/', '/'] _) hbare.lineComment
  | blockComment body closed => exact absurd (List.prefix_append ['/', '*'] _) hbare.blockComment
  | number text => exact .number hl hr
  | color digits => exact absurd rfl hbare.hash
  | punctuation c => exact .punctuation hl hr.1
  | operator text =>
    obtain ⟨c, hc, ⟨hsingle, rfl⟩ | ⟨hrepeat, n, rfl⟩⟩ := hl
    · exact .operator hc hsingle
    · refine .repeated hrepeat fun hnext => hr.1 c hnext hrepeat ?_
      exact List.mem_replicate.2 ⟨Nat.succ_ne_zero n, rfl⟩
  | identifier name =>
    obtain ⟨c, cs, rfl, hc, hcs⟩ := hl
    exact .identifier hc hcs hr
  | quoted q body closed => exact absurd rfl (hbare.quote q)
  | atRule name => exact .atRule hl hr
  | variableName name => exact .variableName hl hr

/-! ### The reader and the table -/

/-- A row of the table and an end that fit at an index of a text. -/
structure FitsAt (text : List Char) (i j : Nat) (type : TokenType) (value : List Char) : Prop where
  /-- The token ends behind its beginning. -/
  lt : i < j
  /-- It ends in the text. -/
  le : j ≤ text.length
  /-- The text between the two, and the character behind it, make a row. -/
  row : Undelimited text[j]? type (text.extract i j) value

/-- What fits is read. -/
theorem FitsAt.tokenAt {source : String} {i j : Nat} (h : FitsAt source.toList i j type value)
    (hbare : Bare (source.toList.drop i)) : TokenAt source i type value j := by
  have hij := Nat.le_of_lt h.lt
  have hrow := h.row
  rw [← List.head?_drop] at hrow
  rw [← extract_append_drop _ hij] at hbare
  obtain ⟨l, rfl, hs, rfl, hl, hr⟩ := hrow.exists_lexeme hbare
  exact tokenAt_of_ends hij h.le hs hl hr

/-- The first lexeme fits. -/
theorem fitsAt_of_first? {text : List Char} {i : Nat} {l : Lexeme} (h : first? (text.drop i) = some l)
    (hbare : Bare (text.drop i)) : FitsAt text i (i + l.spelling.length) l.type l.value := by
  obtain ⟨more, hmore⟩ := spelling_isPrefix h
  have hpos := List.length_pos_iff.2 (spelling_ne_nil h)
  have hextract := extract_of_isPrefix (spelling_isPrefix h)
  have hdrop : text.drop (i + l.spelling.length) = more := by rw [← List.drop_drop, ← hmore, List.drop_left]
  have hlength := congrArg List.length hmore
  rw [List.length_append, List.length_drop] at hlength
  refine ⟨by omega, by omega, ?_⟩
  rw [hextract, ← List.head?_drop, hdrop]
  rw [← hmore] at h hbare
  exact undelimited_of_lexeme (wellFormed_of_first? h) (ends_of_first? h) hbare

/-- **What is read where no delimiter stands.** At most one row of the table and one end fit at an index
of the source; if they do, the reader gives a token of that row which ends there, and if none do, it
fails at the character of that index. -/
theorem readToken_undelimited {source : String} {i : Nat} {c : Char} (hc : source.toList[i]? = some c)
    (hbare : Bare (source.toList.drop i)) :
    (∀ j j' type type' value value', FitsAt source.toList i j type value → FitsAt source.toList i j' type' value' →
        type = type' ∧ value = value' ∧ j = j') ∧
      (∀ j type value, FitsAt source.toList i j type value → TokenAt source i type value j) ∧
      ((∀ j type value, ¬ FitsAt source.toList i j type value) →
        ((Input.ofSource source).skip i).readToken =
          .failed ⟨.unhandled c, some (placeAt source.toList i), some source⟩) := by
  refine ⟨?_, fun j type value h => h.tokenAt hbare, ?_⟩
  · intro j j' type type' value value' h h'
    exact (h.tokenAt hbare).unique (h'.tokenAt hbare)
  · intro hnone
    refine readToken_of_stop hc ?_
    cases hfirst : first? (source.toList.drop i) with
    | none => rfl
    | some l => exact absurd (fitsAt_of_first? hfirst hbare) (hnone _ _ _)

/-- A number with a point ends before another one. -/
theorem readToken_undelimited_points :
    "12.5.x".toList[0]? = some '1' ∧ Bare ("12.5.x".toList.drop 0) ∧
      FitsAt "12.5.x".toList 0 4 .number ['1', '2', '.', '5'] ∧
      TokenAt "12.5.x" 0 .number ['1', '2', '.', '5'] 4 := by
  have hbare : Bare ("12.5.x".toList.drop 0) :=
    ⟨by decide, fun q => by cases q <;> decide, by decide, by decide⟩
  have hwhole : ∀ c ∈ ['1', '2'], isDigit c = true := List.forall_mem_cons.2 ⟨rfl, List.forall_mem_singleton.2 rfl⟩
  have hnumber : IsNumber ['1', '2', '.', '5'] :=
    ⟨['1', '2'], ['5'], hwhole, List.forall_mem_singleton.2 rfl, .inr (.inl ⟨by decide, rfl⟩)⟩
  have hnext : ∀ c ∈ "12.5.x".toList[4]?, isDigit c = false ∧ (c = '.' → '.' ∈ ['1', '2', '.', '5']) := by
    rintro c ⟨⟩
    exact ⟨rfl, fun _ => by decide⟩
  have hfits : FitsAt "12.5.x".toList 0 4 .number ['1', '2', '.', '5'] :=
    ⟨by decide, by decide, .number hnumber hnext⟩
  exact ⟨rfl, hbare, hfits, (readToken_undelimited rfl hbare).2.1 4 .number _ hfits⟩

end Stylesheet
