import Stylesheet.Proofs.Reading
import Mathlib.Data.List.Chain

/-!
# Tokens tile the text they are read from

The tokens of a source lie end to end from its beginning to the place where reading stops, which
is the end of the text or the character that cannot be read. Between its two positions each of
them covers its own spelling: its value with the delimiters of its type put back
(`Token.SpelledAs`). So no character is lost and none is read twice, whichever way a lexeme is
delimited and also when reading fails.

Main statement: `tokenize_tiles`.
-/

namespace Stylesheet

open Lexeme Input

/-! ### What a token covers -/

/-- The characters of a text between two positions. -/
def slice (text : List Char) (p q : Position) : List Char :=
  (text.drop p.cursor.toNat).take (q.cursor - p.cursor).toNat

/-- `t.SpelledAs final raw`: the text `raw` is the value of `t` with the delimiters of its type.
Only where `final` holds may a string lack its second quote or a block comment its closer. -/
def Token.SpelledAs (t : Token) (final : Prop) (raw : List Char) : Prop :=
  let value := t.value.toList
  match t.type with
  | .space | .number | .punctuation | .operator | .identifier => raw = value
  | .colorHex => raw = '#' :: value
  | .atRule => raw = '@' :: value
  | .variableName => raw = '$' :: value
  | .stringDouble => raw = '"' :: value ++ ['"'] ∨ final ∧ raw = '"' :: value
  | .stringSingle => raw = '\'' :: value ++ ['\''] ∨ final ∧ raw = '\'' :: value
  | .comment =>
    raw = '/' :: '/' :: value ∨ raw = '/' :: '*' :: value ++ ['*', '/'] ∨ final ∧ raw = '/' :: '*' :: value

/-- `Tiles text tokens failure`: the tokens cover the text from its beginning to its end, or to
the place of the failure that stopped reading. -/
structure Tiles (text : List Char) (tokens : List Token) (failure : Option LexError) : Prop where
  /-- The first token begins where the text does. -/
  first : ∀ t ∈ tokens.head?, t.start = ⟨0, 1, 0⟩
  /-- Every other token begins where the one before it ends. -/
  contiguous : tokens.IsChain fun t u => t.finish = u.start
  /-- Every token covers something. -/
  nonempty : ∀ t ∈ tokens, t.start.cursor < t.finish.cursor
  /-- If nothing failed, the last token ends where the text does. -/
  complete : failure = none → (stopOf tokens).cursor = text.length
  /-- A failure lies where the last token ends, and not at the end of the text. -/
  stopped : ∀ e ∈ failure, e.position = some (stopOf tokens) ∧ (stopOf tokens).cursor < text.length
  /-- Every token covers its own spelling. -/
  spelled : ∀ t ∈ tokens, t.SpelledAs (t.finish.cursor = text.length) (slice text t.start t.finish)
  /-- Together the tokens cover what was read of the text. -/
  covered : (tokens.flatMap fun t => slice text t.start t.finish) = text.take (stopOf tokens).cursor.toNat

/-! ### Unclosed lexemes reach the end -/

theorem Lexeme.blockBody_unclosed (text : List Char) (h : (blockBody text).2 = false) : (blockBody text).1 = text := by
  fun_induction blockBody text with
  | case1 => rfl
  | case2 rest => cases h
  | case3 c cs _ body closed hb ih =>
    rw [hb] at ih
    rw [show body = cs from ih h]

theorem Lexeme.quotedBody_unclosed (quote : Char) (text : List Char) (h : (quotedBody quote text).2 = false) :
    (quotedBody quote text).1 = text := by
  fun_induction quotedBody quote text with
  | case1 => rfl
  | case2 d cs body closed hb ih =>
    rw [hb] at ih
    rw [show body = cs from ih h]
  | case3 cs _ => cases h
  | case4 c cs _ hc body closed hb ih =>
    rw [hb] at ih
    rw [show body = cs from ih h]

/-- A lexeme that is not closed takes all the text. -/
theorem Lexeme.spelling_eq_of_not_closed {text : List Char} {l : Lexeme} (h : first? text = some l)
    (hl : l.closed = false) : l.spelling = text := by
  obtain ⟨c, cs, o, rfl, ho, rfl⟩ := first?_eq_some_iff.1 h
  have hfits := Opening.fits_of_of? ho
  cases o with
  | blockComment =>
    obtain ⟨rfl, hs⟩ : c = '/' ∧ cs.head? = _ := by simpa [Opening.fits] using hfits
    obtain ⟨rest, rfl⟩ := List.head?_eq_some_iff.1 hs
    have hopen : (blockBody rest).2 = false := hl
    simp [Opening.lexeme, spelling, hopen, blockBody_unclosed rest hopen]
  | quoted q =>
    obtain rfl : c = q.char := by simpa [Opening.fits] using hfits
    have hopen : (quotedBody q.char cs).2 = false := hl
    simp [Opening.lexeme, spelling, hopen, quotedBody_unclosed q.char cs hopen]
  | hash =>
    simp only [Opening.lexeme] at hl
    split at hl <;> cases hl
  | _ => cases hl

/-- The token of a lexeme is spelled as the lexeme is. -/
theorem Lexeme.spelledAs_toToken (l : Lexeme) (p : Position) {final : Prop} (h : l.closed = false → final) :
    (l.toToken p).SpelledAs final l.spelling := by
  cases l with
  | lineComment body => simp [Token.SpelledAs, toToken, type, value, spelling]
  | blockComment body closed =>
    cases closed with
    | false => simp [Token.SpelledAs, toToken, type, value, spelling, h rfl]
    | true => simp [Token.SpelledAs, toToken, type, value, spelling]
  | quoted q body closed =>
    cases closed with
    | false => cases q <;> simp [Token.SpelledAs, toToken, type, value, spelling, Quote.type, Quote.char, h rfl]
    | true => cases q <;> simp [Token.SpelledAs, toToken, type, value, spelling, Quote.type, Quote.char]
  | _ => simp [Token.SpelledAs, toToken, type, value, spelling]

/-! ### Lexemes laid out -/

theorem head?_toTokens {p : Position} {ls : List Lexeme} : ∀ t ∈ (toTokens p ls).head?, t.start = p := by
  intro t ht
  cases ls with
  | nil => cases ht
  | cons l ls => cases ht; rfl

theorem isChain_toTokens (p : Position) (ls : List Lexeme) :
    (toTokens p ls).IsChain fun t u => t.finish = u.start := by
  induction ls generalizing p with
  | nil => exact .nil
  | cons l ls ih =>
    rw [toTokens, List.isChain_cons]
    exact ⟨fun u hu => (head?_toTokens u hu).symm, ih _⟩

theorem stopOf_toTokens (ls : List Lexeme) : stopOf (toTokens .start ls) = Position.start.advance (spelled ls) := by
  -- the tokens after the first are laid out from a later position
  suffices h : ∀ p, ((toTokens p ls).getLast?.map (·.finish)).getD p = p.advance (spelled ls) from h _
  intro p
  induction ls generalizing p with
  | nil => rfl
  | cons l ls ih =>
    rw [spelled_cons, Position.advance_append, ← ih, toTokens, List.getLast?_cons]
    cases (toTokens (p.advance l.spelling) ls).getLast? <;> rfl

/-- The characters between the positions before and after a piece of text are that piece. -/
theorem slice_advance (a b c : List Char) :
    slice (a ++ b ++ c) (Position.start.advance a) ((Position.start.advance a).advance b) = b := by
  have hlength : (((Position.start.advance a).advance b).cursor - (Position.start.advance a).cursor).toNat =
      b.length := by rw [Position.advance_cursor]; omega
  rw [slice, hlength, cursor_start_advance, Int.toNat_natCast, List.append_assoc, List.drop_left, List.take_left]

/-- Tokens laid out over a text cover the spellings of their lexemes. -/
theorem flatMap_slice_toTokens (before : List Char) (ls : List Lexeme) (rest : List Char) :
    ((toTokens (Position.start.advance before) ls).flatMap fun t =>
      slice (before ++ spelled ls ++ rest) t.start t.finish) = spelled ls := by
  induction ls generalizing before with
  | nil => rfl
  | cons l ls ih =>
    have htext : before ++ spelled (l :: ls) ++ rest = before ++ l.spelling ++ (spelled ls ++ rest) := by simp
    have hmore := ih (before ++ l.spelling)
    rw [Position.advance_append, List.append_assoc _ (spelled ls) rest] at hmore
    have hfirst : slice (before ++ l.spelling ++ (spelled ls ++ rest)) (l.toToken (Position.start.advance before)).start
        (l.toToken (Position.start.advance before)).finish = l.spelling := slice_advance before l.spelling _
    rw [toTokens, List.flatMap_cons, htext, hmore, hfirst, spelled_cons]

/-- Each token of a text that is cut comes from a lexeme, and stands where it was read. -/
theorem Lexeme.Cuts.of_mem_toTokens {text rest : List Char} {ls : List Lexeme} (h : Cuts text ls rest)
    (before : List Char) {t : Token} (ht : t ∈ toTokens (Position.start.advance before) ls) :
    ∃ l a b, before ++ text = a ++ l.spelling ++ b ∧ first? (l.spelling ++ b) = some l ∧
      t = l.toToken (Position.start.advance a) := by
  induction h generalizing before with
  | stop _ => cases ht
  | @read l text more rest ls hl heq _ ih =>
    subst heq
    rcases List.mem_cons.1 ht with rfl | ht
    · exact ⟨l, before, more, (List.append_assoc ..).symm, hl, rfl⟩
    · rw [← Position.advance_append] at ht
      obtain ⟨l', a, b, hab, hl', rfl⟩ := ih (before ++ l.spelling) ht
      exact ⟨l', a, b, by rw [← hab, List.append_assoc], hl', rfl⟩

theorem Lexeme.start_lt_finish_toToken {text : List Char} {l : Lexeme} (h : first? text = some l) (p : Position) :
    (l.toToken p).start.cursor < (l.toToken p).finish.cursor := by
  have hpos := List.length_pos_iff.2 (spelling_ne_nil h)
  simp only [toToken, Position.advance_cursor]
  omega

/-- Where a lexeme stands in a text, its token covers its spelling. -/
theorem Lexeme.spelledAs_slice {l : Lexeme} {b : List Char} (h : first? (l.spelling ++ b) = some l) (a : List Char) :
    (l.toToken (Position.start.advance a)).SpelledAs
      (((Position.start.advance a).advance l.spelling).cursor = (a ++ l.spelling ++ b).length)
      (slice (a ++ l.spelling ++ b) (Position.start.advance a) ((Position.start.advance a).advance l.spelling)) := by
  rw [slice_advance]
  refine l.spelledAs_toToken _ fun hopen => ?_
  -- an unclosed lexeme took all that was left, so its token ends with the text
  have hb : b = [] := List.append_right_eq_self.1 (spelling_eq_of_not_closed h hopen).symm
  rw [hb, List.append_nil, ← Position.advance_append, cursor_start_advance]

/-! ### The tiling -/

/-- What a text is cut into tiles it, up to a rest that is then at fault. -/
theorem Lexeme.Cuts.tiles {text rest : List Char} {ls : List Lexeme} (h : Cuts text ls rest)
    {failure : Char → LexError} (hf : ∀ c, (failure c).position = some (Position.start.advance (spelled ls))) :
    Tiles text (toTokens .start ls) (rest.head?.map failure) := by
  have htext := h.text_eq
  have hlength : text.length = (spelled ls).length + rest.length := by rw [htext, List.length_append]
  have hstop : (stopOf (toTokens .start ls)).cursor = (spelled ls).length := by
    rw [stopOf_toTokens, cursor_start_advance]
  constructor
  case first => exact head?_toTokens
  case contiguous => exact isChain_toTokens _ ls
  case nonempty =>
    intro t ht
    obtain ⟨l, a, b, -, hl, rfl⟩ := h.of_mem_toTokens [] ht
    exact start_lt_finish_toToken hl _
  case complete =>
    intro hnone
    have hrest : rest = [] := List.head?_eq_none_iff.1 (Option.map_eq_none_iff.1 hnone)
    rw [hstop, hlength, hrest, List.length_nil, Nat.add_zero]
  case stopped =>
    intro e he
    obtain ⟨c, hc, rfl⟩ := Option.map_eq_some_iff.1 he
    obtain ⟨cs, rfl⟩ := List.head?_eq_some_iff.1 hc
    refine ⟨by rw [hf, stopOf_toTokens], ?_⟩
    rw [hstop, hlength, List.length_cons]
    omega
  case spelled =>
    intro t ht
    obtain ⟨l, a, b, hab, hl, rfl⟩ := h.of_mem_toTokens [] ht
    rw [show text = a ++ l.spelling ++ b from hab]
    exact spelledAs_slice hl a
  case covered =>
    have hslices := flatMap_slice_toTokens [] ls rest
    rw [List.nil_append, ← htext] at hslices
    rw [hstop, Int.toNat_natCast, h.take_text]
    exact hslices

/-- **The tokens of a source tile it.** Taken one at a time from a fresh stream they are the
tokens of `tokenize`, and these cover the source from its beginning to where reading stops. -/
theorem tokenize_tiles (source : String) :
    (∀ d, (TokenStream.ofSource source).Drains d ↔ d = tokenize source) ∧
      Tiles source.toList (tokenize source).tokens (tokenize source).failure := by
  refine ⟨TokenStream.drains_ofSource_iff source, ?_⟩
  obtain ⟨ls, rest, h⟩ := exists_cuts source.toList
  rw [tokenize_of_cuts h]
  exact h.tiles fun _ => rfl

end Stylesheet
