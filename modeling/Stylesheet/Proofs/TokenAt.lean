import Stylesheet.Proofs.Grammar
import Stylesheet.Proofs.Placement
import Stylesheet.Proofs.Tiling

/-!
# The token at an index of a source

What kind of token a source has at an index, and where that token ends, can be said with indices of
the source alone. `TokenAt source i type value j` is the form of all such statements: read from
index `i` on, the source gives a token of that type and value, which begins at `i` and ends at `j`,
and reading goes on at `j`. Direct reads lead to any index, so `i` need not be one at which a run
from the beginning of the source starts a token; where it is, the run has that token
(`TokenAt.eq_of_mem`), and every token of a run is one of this form (`exists_tokenAt_of_mem`).

The first lexeme of the text at an index decides (`tokenAt_of_first?`, `readToken_of_stop`), so the
grammar of lexemes does (`tokenAt_of_ends`).
-/

namespace Stylesheet

open Lexeme Input

/-- The reader, started at index `i` of a source, gives a token of this type and value that lies
between `i` and `j`, and goes on at `j`. -/
def TokenAt (source : String) (i : Nat) (type : TokenType) (value : List Char) (j : Nat) : Prop :=
  ((Input.ofSource source).skip i).readToken =
    .token ⟨type, String.ofList value, placeAt source.toList i, placeAt source.toList j⟩
      ((Input.ofSource source).skip j)

variable {source : String} {i j : Nat} {type : TokenType} {value : List Char}

theorem ahead_skip_ofSource (source : String) (n : Nat) :
    ((Input.ofSource source).skip n).ahead = source.toList.drop n := by
  rw [ahead_skip]
  rfl

/-! ### Stretches of a text -/

section Stretches

variable {text : List Char} {k : Nat}

theorem drop_of_getElem? {c : Char} (h : text[i]? = some c) : text.drop i = c :: text.drop (i + 1) := by
  obtain ⟨hi, rfl⟩ := List.getElem?_eq_some_iff.1 h
  exact List.drop_eq_getElem_cons hi

theorem extract_append_drop (text : List Char) (h : i ≤ j) : text.extract i j ++ text.drop j = text.drop i := by
  have hsplit := List.take_append_drop (j - i) (text.drop i)
  rwa [List.drop_drop, Nat.add_sub_cancel' h] at hsplit

theorem extract_append_extract (text : List Char) (hij : i ≤ j) (hjk : j ≤ k) :
    text.extract i j ++ text.extract j k = text.extract i k := by
  have hdrop : (text.drop i).drop (j - i) = text.drop j := by rw [List.drop_drop, Nat.add_sub_cancel' hij]
  have hlength : j - i + (k - j) = k - i := by omega
  rw [List.extract, List.extract, List.extract, ← hdrop, ← List.take_add, hlength]

theorem extract_length (text : List Char) (i : Nat) : text.extract i text.length = text.drop i :=
  List.take_of_length_le (Nat.le_of_eq List.length_drop)

theorem extract_of_isPrefix {raw : List Char} (h : raw <+: text.drop i) : text.extract i (i + raw.length) = raw := by
  rw [List.extract, Nat.add_sub_cancel_left]
  exact (List.prefix_iff_eq_take.1 h).symm

theorem add_length_extract (hij : i ≤ j) (hj : j ≤ text.length) : i + (text.extract i j).length = j := by
  rw [List.length_take, List.length_drop]
  omega

end Stretches

/-! ### The first lexeme at an index -/

theorem start_advance_eq {text a b : List Char} (h : text = a ++ b) :
    Position.start.advance a = placeAt text a.length := by
  rw [← start_advance_take text (by simp [h]), h, List.take_left]

/-- The lexeme at an index gives the token there. -/
theorem tokenAt_of_first? {l : Lexeme} (h : first? (source.toList.drop i) = some l) :
    TokenAt source i l.type l.value (i + l.spelling.length) := by
  have hahead := ahead_skip_ofSource source i
  have hread := readToken_of_first? (i := (Input.ofSource source).skip i) (hahead ▸ h)
  obtain ⟨more, hmore⟩ := spelling_isPrefix h
  have hfinish := position_skip ((Input.ofSource source).skip i) (hahead.trans hmore.symm)
  rw [TokenAt, hread, toToken, ← hfinish, ← skip_add, position_skip_ofSource, position_skip_ofSource]

/-- A character that opens no lexeme is at fault where it stands, and nothing is read. -/
theorem readToken_of_stop {c : Char} (hc : source.toList[i]? = some c) (h : first? (source.toList.drop i) = none) :
    ((Input.ofSource source).skip i).readToken =
      .failed ⟨.unhandled c, some (placeAt source.toList i), some source⟩ := by
  have hahead := ahead_skip_ofSource source i
  have hread := readToken_of_not_first? (i := (Input.ofSource source).skip i) (hahead ▸ h)
  rw [hahead, List.head?_drop, hc] at hread
  rw [hread]
  simp only [errorAt, position_skip_ofSource, text_skip_ofSource]

/-- A lexeme that is spelled between two indices and ends at the second is the token at the first. -/
theorem tokenAt_of_ends {l : Lexeme} (hi : i ≤ j) (hj : j ≤ source.toList.length)
    (hs : l.spelling = source.toList.extract i j) (hl : l.WellFormed) (hr : l.Ends (source.toList.drop j)) :
    TokenAt source i l.type l.value j := by
  have hfirst := first?_append hl hr
  rw [hs, extract_append_drop _ hi] at hfirst
  have hat := tokenAt_of_first? hfirst
  rw [hs, add_length_extract hi hj] at hat
  exact hat

/-! ### Runs over the source -/

/-- At one index there is one token. -/
theorem TokenAt.unique {j' : Nat} {type' : TokenType} {value' : List Char} (h : TokenAt source i type value j)
    (h' : TokenAt source i type' value' j') : type = type' ∧ value = value' ∧ j = j' := by
  have hread := h.symm.trans h'
  simp only [Read.token.injEq, Token.mk.injEq] at hread
  obtain ⟨⟨htype, hvalue, -, hfinish⟩, -⟩ := hread
  have htext := congrArg String.toList hvalue
  rw [String.toList_ofList, String.toList_ofList] at htext
  exact ⟨htype, htext, Int.ofNat_inj.1 (congrArg Position.cursor hfinish)⟩

/-- Draining goes on where the token ends. -/
theorem TokenAt.drain (h : TokenAt source i type value j) :
    ((Input.ofSource source).skip i).drain.tokens =
      ⟨type, String.ofList value, placeAt source.toList i, placeAt source.toList j⟩ ::
        ((Input.ofSource source).skip j).drain.tokens := by
  rw [drain_of_token h]

/-- **Every token of a source is the one at its index.** -/
theorem exists_tokenAt_of_mem {t : Token} (ht : t ∈ (tokenize source).tokens) :
    ∃ i j, i ≤ j ∧ j ≤ source.toList.length ∧ t.start = placeAt source.toList i ∧
      t.finish = placeAt source.toList j ∧ TokenAt source i t.type t.value.toList j := by
  obtain ⟨ls, rest, hcuts⟩ := exists_cuts source.toList
  rw [tokenize_of_cuts hcuts] at ht
  obtain ⟨l, a, b, htext, hl, rfl⟩ := hcuts.of_mem_toTokens [] ht
  rw [List.nil_append] at htext
  have hdrop : source.toList.drop a.length = l.spelling ++ b := by
    rw [htext, List.append_assoc, List.drop_left]
  refine ⟨a.length, a.length + l.spelling.length, Nat.le_add_right _ _, ?_, ?_, ?_, ?_⟩
  · rw [htext, List.length_append, List.length_append]
    exact Nat.le_add_right _ _
  · exact start_advance_eq (htext.trans (List.append_assoc ..))
  · rw [toToken, ← Position.advance_append, start_advance_eq htext, List.length_append]
  · rw [toToken, String.toList_ofList]
    exact tokenAt_of_first? (hdrop ▸ hl)

/-- Where a run over the source starts a token at the index, it is the token there. -/
theorem TokenAt.eq_of_mem {t : Token} (h : TokenAt source i type value j) (ht : t ∈ (tokenize source).tokens)
    (hi : t.start.cursor = i) :
    t = ⟨type, String.ofList value, placeAt source.toList i, placeAt source.toList j⟩ := by
  obtain ⟨i', j', -, -, hstart, hfinish, hat⟩ := exists_tokenAt_of_mem ht
  rw [hstart] at hi
  obtain rfl : i' = i := Int.ofNat_inj.1 hi
  obtain ⟨htype, hvalue, rfl⟩ := h.unique hat
  rw [htype, hvalue, String.ofList_toList, ← hstart, ← hfinish]

end Stylesheet
