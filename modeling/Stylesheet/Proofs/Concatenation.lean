import Stylesheet.Proofs.Margin
import Stylesheet.Proofs.Restart
import Stylesheet.Proofs.RoundTrip

/-!
# Sources joined at a line feed

Two texts with a line feed between them are read as the first and then the second. Every lexeme at
the end of the first was decided with nothing behind it, and it has to be decided in the same way
with a line feed there. That is so for all but two sorts (`ends_feed_iff`): blanks, which the line
feed would continue, and strings and block comments that lack their closing delimiter, which would
take in the second text. If the first text ends with neither, its lexemes stay as they are and those
of the second follow (`Cuts.append_feed`). Main statement: `tokenize_append_feed`.
-/

namespace Stylesheet

open Lexeme Input

/-! ### Open tokens -/

/-- `t.OpenIn text`: the token `t` of `text` lacks its closing delimiter. It covers a quote and its
value, or the opener of a block comment and its value, and nothing else. -/
def Token.OpenIn (text : List Char) (t : Token) : Prop :=
  let raw := slice text t.start t.finish
  let value := t.value.toList
  match t.type with
  | .stringDouble => raw = '"' :: value
  | .stringSingle => raw = '\'' :: value
  | .comment => raw = '/' :: '*' :: value
  | _ => False

/-- A lexeme whose token is not open is closed. -/
theorem Lexeme.closed_of_not_openIn {l : Lexeme} {before after : List Char}
    (h : ¬ (l.toToken (Position.start.advance before)).OpenIn (before ++ l.spelling ++ after)) : l.closed = true := by
  have hraw : slice (before ++ l.spelling ++ after) (l.toToken (Position.start.advance before)).start
      (l.toToken (Position.start.advance before)).finish = l.spelling := slice_advance before l.spelling after
  have hvalue : (l.toToken (Position.start.advance before)).value.toList = l.value := String.toList_ofList
  unfold Token.OpenIn at h
  rw [hraw, hvalue] at h
  cases l with
  | blockComment body closed =>
    cases closed with
    | true => rfl
    | false => exact absurd (by simp [spelling, value, toToken, type]) h
  | quoted q body closed =>
    cases closed with
    | true => rfl
    | false => cases q <;> exact absurd (by simp [spelling, value, toToken, type, Quote.type, Quote.char]) h
  | _ => rfl

namespace Lexeme

/-! ### The line feed behind the last lexeme -/

/-- **A line feed ends all lexemes but two sorts**: blanks, and those that are not closed. -/
theorem ends_feed_iff {l : Lexeme} (hl : l.WellFormed) (rest : List Char) :
    l.Ends ('\n' :: rest) ↔ l.closed = true ∧ l.type ≠ .space := by
  constructor
  · intro h
    constructor
    · cases l with
      | blockComment body closed =>
        cases closed with
        | true => rfl
        | false => cases h rfl
      | quoted q body closed =>
        cases closed with
        | true => rfl
        | false => cases h rfl
      | _ => rfl
    · intro hspace
      cases l with
      | space run => cases h '\n' rfl
      | quoted q body closed => cases q <;> cases hspace
      | _ => cases hspace
  · rintro ⟨hclosed, hspace⟩
    exact ends_blank ⟨hl, hclosed, hspace⟩ rfl fun _ _ => rfl

/-- A lexeme with more text behind it does not see that a line feed follows that text. -/
theorem first?_append_feed {l : Lexeme} {c : Char} {cs : List Char} (h : first? (l.spelling ++ c :: cs) = some l)
    (rest : List Char) : first? (l.spelling ++ (c :: cs ++ '\n' :: rest)) = some l := by
  refine first?_congr h rfl ?_
  rw [← List.take_takeWhile, ← List.take_takeWhile, takeWhile_append_barrier rfl]

/-- **Lexemes of joined texts**: those of the first and then those of the second, which begins with
the line feed. -/
theorem Cuts.append_feed {text more rest : List Char} {ls ls' : List Lexeme} (h : Cuts text ls [])
    (hlast : ∀ l ∈ ls.getLast?, l.closed = true ∧ l.type ≠ .space) (h' : Cuts ('\n' :: more) ls' rest) :
    Cuts (text ++ '\n' :: more) (ls ++ ls') rest := by
  generalize hstop : ([] : List Char) = stop at h
  induction h with
  | stop _ =>
    subst hstop
    exact h'
  | @read l text follow stop ls hl htext hcuts ih =>
    subst hstop htext
    have hmore : ∀ l' ∈ ls.getLast?, l'.closed = true ∧ l'.type ≠ .space := by
      intro l' hl'
      refine hlast l' ?_
      rw [List.getLast?_cons, show ls.getLast? = some l' from hl']
      rfl
    have hread : first? (l.spelling ++ (follow ++ '\n' :: more)) = some l := by
      cases follow with
      | nil =>
        -- this lexeme is the last, and has been read at the end of the text
        cases hcuts with
        | stop _ =>
          obtain ⟨hwell, -⟩ := first?_append_iff.1 hl
          exact first?_append hwell ((ends_feed_iff hwell more).2 (hlast l rfl))
        | read hnone _ _ => cases hnone
      | cons c cs => exact first?_append_feed hl more
    rw [List.append_assoc]
    exact .read hread rfl (ih hmore rfl)

end Lexeme

/-! ### Sources -/

/-- Where a source is cut without a rest, a last token that is neither blank nor open is that of a
lexeme which a line feed ends. -/
theorem Lexeme.Cuts.last_of_tokens {text : List Char} {ls : List Lexeme} (h : Cuts text ls [])
    (hlast : ∀ t ∈ (toTokens .start ls).getLast?, t.type ≠ .space ∧ ¬ t.OpenIn text) :
    ∀ l ∈ ls.getLast?, l.closed = true ∧ l.type ≠ .space := by
  intro l hl
  obtain ⟨before, rfl⟩ := List.getLast?_eq_some_iff.1 hl
  obtain ⟨hspace, hopen⟩ := hlast _ (getLast?_toTokens_concat .start before l)
  have htext : text = spelled before ++ l.spelling ++ [] := by
    rw [h.text_eq, spelled_append, spelled_singleton]
  rw [htext] at hopen
  exact ⟨closed_of_not_openIn hopen, hspace⟩

/-- **Sources can be joined at a line feed.** If a source can be read to its end, and its last token,
if it has one, is neither blank nor a string or a block comment without its closer, then the source
with a line feed and any text behind it gives the tokens it gives alone, and then those that the line
feed and the text give, moved to the end of the source. Reading ends as it does for these: at the end
of the text, or with the same fault at the moved position. -/
theorem tokenize_append_feed {source : String} {ts : List Token} (h : (TokenStream.ofSource source).all.1 = .ok ts)
    (hlast : ∀ t ∈ ts.getLast?, t.type ≠ .space ∧ ¬ t.OpenIn source.toList) (more : String) :
    (∀ d, (TokenStream.ofSource (source ++ "\n" ++ more)).Drains d ↔ d = tokenize (source ++ "\n" ++ more)) ∧
      (tokenize (source ++ "\n" ++ more)).tokens =
        ts ++ (tokenize ("\n" ++ more)).tokens.map (Token.shift (placeAt source.toList source.length)) ∧
      (tokenize (source ++ "\n" ++ more)).failure =
        (tokenize ("\n" ++ more)).failure.map fun e =>
          ⟨e.fault, e.position.map (placeAt source.toList source.length).shift, some (source ++ "\n" ++ more)⟩ := by
  obtain ⟨ls, hcuts, rfl⟩ := TokenStream.exists_cuts_of_all h
  obtain ⟨ls', rest, hcuts'⟩ := exists_cuts ('\n' :: more.toList)
  have hfeed : Cuts ("\n" ++ more).toList ls' rest := by
    rw [String.toList_append]
    exact hcuts'
  have hwhole : Cuts (source ++ "\n" ++ more).toList (ls ++ ls') rest := by
    rw [String.toList_append, String.toList_append, List.append_assoc]
    exact hcuts.append_feed (hcuts.last_of_tokens hlast) hcuts'
  -- the first text has been read when its length has
  have hplace : placeAt source.toList source.length = Position.start.advance (spelled ls) := by
    rw [← String.length_toList, ← start_advance_take _ (Nat.le_refl _), List.take_length, hcuts.text_eq, List.append_nil]
  refine ⟨TokenStream.drains_ofSource_iff _, ?_, ?_⟩
  · rw [tokenize_of_cuts hwhole, tokenize_of_cuts hfeed, hplace]
    simp only
    rw [toTokens_append, ← toTokens_shift _ (Int.le_refl 1), Position.shift_start]
  · rw [tokenize_of_cuts hwhole, tokenize_of_cuts hfeed, hplace]
    simp only [Option.map_map]
    rw [spelled_append, Position.advance_append, ← Position.shift_start_advance _ (spelled ls')]
    rfl

/-- A slash at the end of a source stays an operator, though a star comes behind the line feed, and
the error of the second text is moved to its second line. -/
theorem tokenize_append_feed_slash :
    (TokenStream.ofSource "a/").all.1 =
        .ok [⟨.identifier, "a", ⟨0, 1, 0⟩, ⟨1, 1, 1⟩⟩, ⟨.operator, "/", ⟨1, 1, 1⟩, ⟨2, 1, 2⟩⟩] ∧
      (tokenize "a/\n*?").tokens =
        [⟨.identifier, "a", ⟨0, 1, 0⟩, ⟨1, 1, 1⟩⟩, ⟨.operator, "/", ⟨1, 1, 1⟩, ⟨2, 1, 2⟩⟩,
          ⟨.space, "\n", ⟨2, 1, 2⟩, ⟨3, 2, 0⟩⟩, ⟨.operator, "*", ⟨3, 2, 0⟩, ⟨4, 2, 1⟩⟩] ∧
      (tokenize "a/\n*?").failure = some ⟨.unhandled '?', some ⟨4, 2, 1⟩, some "a/\n*?"⟩ := by
  have hall : (TokenStream.ofSource "a/").all.1 =
      .ok [⟨.identifier, "a", ⟨0, 1, 0⟩, ⟨1, 1, 1⟩⟩, ⟨.operator, "/", ⟨1, 1, 1⟩, ⟨2, 1, 2⟩⟩] := by decide +kernel
  have hsecond : (tokenize ("\n" ++ "*?")).tokens =
        [⟨.space, "\n", ⟨0, 1, 0⟩, ⟨1, 2, 0⟩⟩, ⟨.operator, "*", ⟨1, 2, 0⟩, ⟨2, 2, 1⟩⟩] ∧
      (tokenize ("\n" ++ "*?")).failure = some ⟨.unhandled '?', some ⟨2, 2, 1⟩, some "\n*?"⟩ := by decide +kernel
  have hlast : ∀ t ∈ [(⟨.identifier, "a", ⟨0, 1, 0⟩, ⟨1, 1, 1⟩⟩ : Token), ⟨.operator, "/", ⟨1, 1, 1⟩, ⟨2, 1, 2⟩⟩].getLast?,
      t.type ≠ .space ∧ ¬ t.OpenIn "a/".toList := by
    rintro t ⟨⟩
    exact ⟨by decide, id⟩
  obtain ⟨-, htokens, hfailure⟩ := tokenize_append_feed hall hlast "*?"
  rw [hsecond.1] at htokens
  rw [hsecond.2] at hfailure
  exact ⟨hall, htokens, hfailure⟩

end Stylesheet
