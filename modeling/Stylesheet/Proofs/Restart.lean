import Stylesheet.Proofs.Placement

/-!
# Reading from any place on

The reader never looks behind the place where it is, and it never asks how far it has come. So
draining an input gives what the text ahead of it gives when it is read as a source of its own;
only the positions differ, and they differ by where the input is. A position on the first line of
the text ahead is moved by cursor, line and column, and behind its first line feed the column
counts from the same line start as before (`Position.shift`).

`drain_eq_shift` says this of every input. Main statement: `drains_restart`, for an input that was
read to some place directly, and for one that is read on behind a character at fault.
-/

namespace Stylesheet

open Input Lexeme

/-! ### Moving positions -/

namespace Position

/-- What the position `q` of a text becomes when the text begins at `p` of another one. -/
def shift (p q : Position) : Position :=
  ⟨q.cursor + p.cursor, q.line + (p.line - 1), if q.line = 1 then q.column + p.column else q.column⟩

theorem shift_start (p : Position) : p.shift start = p := by
  obtain ⟨cursor, line, column⟩ := p
  simp only [shift, start, if_true, mk.injEq]
  omega

theorem le_line_step (q : Position) (c : Option Char) : q.line ≤ (q.step c).line := by
  rcases q.before_step c with h | h
  · exact Int.le_of_lt h
  · exact Int.le_of_eq h.1

theorem le_line_advance (q : Position) (text : List Char) : q.line ≤ (q.advance text).line := by
  induction text generalizing q with
  | nil => exact Int.le_refl _
  | cons c text ih => exact Int.le_trans (q.le_line_step (some c)) (ih _)

/-- Moving a position and reading a character can be done in either order. There must be no line
before the first: the line feed at its end would lead to the first line without its column. -/
theorem shift_step (p : Position) {q : Position} (hq : 1 ≤ q.line) (c : Option Char) :
    p.shift (q.step c) = (p.shift q).step c := by
  unfold step
  split
  · have hline : q.line + 1 ≠ 1 := by omega
    simp only [shift, if_neg hline, mk.injEq, and_true]
    omega
  · by_cases hline : q.line = 1
    · simp only [shift, if_pos hline, mk.injEq, true_and]
      omega
    · simp only [shift, if_neg hline, mk.injEq, and_true]
      omega

theorem shift_advance (p : Position) {q : Position} (hq : 1 ≤ q.line) (text : List Char) :
    p.shift (q.advance text) = (p.shift q).advance text := by
  induction text generalizing q with
  | nil => rfl
  | cons c text ih =>
    have hstep : 1 ≤ (q.step (some c)).line := Int.le_trans hq (q.le_line_step _)
    rw [advance_cons, advance_cons, ih hstep, shift_step p hq]

/-- Reading a text from `p` on leads to where its end is moved to. -/
theorem shift_start_advance (p : Position) (text : List Char) : p.shift (start.advance text) = p.advance text := by
  rw [shift_advance p (Int.le_refl 1), shift_start]

end Position

/-! ### Moving tokens -/

/-- A token of a text that begins at `p` of another one. -/
def Token.shift (p : Position) (t : Token) : Token := ⟨t.type, t.value, p.shift t.start, p.shift t.finish⟩

/-- An error in the text ahead of an input: the wording stays, the position moves, and the text is
that of the input. -/
def LexError.shift (i : Input) (e : LexError) : LexError :=
  ⟨e.fault, e.position.map i.position.shift, some (String.ofList i.text)⟩

/-- What draining an input gives, from what its text ahead is read as. -/
def Input.Drained.shift (i : Input) (d : Drained) : Drained :=
  ⟨d.tokens.map (Token.shift i.position), d.failure.map (LexError.shift i), i.skip d.rest.reads.length⟩

/-- Lexemes laid out from a moved position make moved tokens. -/
theorem toTokens_shift (p : Position) {q : Position} (hq : 1 ≤ q.line) (ls : List Lexeme) :
    toTokens (p.shift q) ls = (toTokens q ls).map (Token.shift p) := by
  induction ls generalizing q with
  | nil => rfl
  | cons l ls ih =>
    have hadvance : 1 ≤ (q.advance l.spelling).line := Int.le_trans hq (q.le_line_advance _)
    have hfirst : l.toToken (p.shift q) = (l.toToken q).shift p := by
      rw [toToken, ← p.shift_advance hq]
      rfl
    rw [toTokens, toTokens, List.map_cons, hfirst, ← p.shift_advance hq, ih hadvance]

/-! ### Draining -/

/-- **The text ahead and the position decide what draining gives**: what the text ahead is read as,
moved to where the input is. -/
theorem drain_eq_shift (i : Input) : i.drain = (tokenize (String.ofList i.ahead)).shift i := by
  obtain ⟨ls, rest, h⟩ := exists_cuts i.ahead
  have hsource : Cuts (String.ofList i.ahead).toList ls rest := by
    rw [String.toList_ofList]
    exact h
  have hposition : (i.skip (spelled ls).length).position = i.position.shift (Position.start.advance (spelled ls)) := by
    rw [position_skip i h.text_eq, Position.shift_start_advance]
  have htokens : toTokens i.position ls = (toTokens .start ls).map (Token.shift i.position) := by
    rw [← toTokens_shift i.position (Int.le_refl 1), Position.shift_start]
  have hrest : ((Input.ofSource (String.ofList i.ahead)).skip (spelled ls).length).reads.length =
      (spelled ls).length := by
    rw [length_reads_skip]
    exact Nat.zero_add _
  rw [drain_of_cuts h, tokenize_of_cuts hsource, Drained.shift, ← htokens, hrest, Option.map_map]
  simp only [errorAt, hposition, text_skip]
  rfl

/-- A stream that keeps nothing gives what its text ahead is read as. -/
theorem drains_iff_shift (i : Input) (d : Drained) :
    TokenStream.Drains ⟨i, []⟩ d ↔ d = (tokenize (String.ofList i.ahead)).shift i := by
  rw [← drain_eq_shift]
  constructor
  · intro h
    exact h.unique (TokenStream.drains_input i)
  · rintro rfl
    exact TokenStream.drains_input i

/-- A source is drained up to the character at fault, and the error is where the input stopped. -/
theorem tokenize_stopped {source : String} {e : LexError} (h : (tokenize source).failure = some e) :
    ∃ c, (tokenize source).rest = (Input.ofSource source).skip c ∧ e.position = some (placeAt source.toList c) := by
  obtain ⟨ls, rest, hcuts⟩ := exists_cuts (Input.ofSource source).ahead
  rw [tokenize, drain_of_cuts hcuts] at h ⊢
  obtain ⟨c, -, rfl⟩ := Option.map_eq_some_iff.1 h
  exact ⟨(spelled ls).length, rfl, congrArg some (position_skip_ofSource source _)⟩

/-- **Reading can begin anywhere.** Behind any number of direct reads an input is at the position of
that index, and a stream on it gives, its tokens taken one at a time, the tokens and the outcome of
the rest of the source, moved by that position. In particular, where taking the tokens of a source
has failed at an index, one direct read leads behind it, and taking tokens then gives the tokens
and the outcome of what follows, moved likewise. -/
theorem drains_restart (source : String) (n : Nat) :
    ((Input.ofSource source).skip n).position = placeAt source.toList n ∧
      (∀ d, TokenStream.Drains ⟨(Input.ofSource source).skip n, []⟩ d ↔
        d = (tokenize (String.ofList (source.toList.drop n))).shift ((Input.ofSource source).skip n)) ∧
      ∀ d e, (TokenStream.ofSource source).Drains d → d.failure = some e →
        ∃ c, e.position = some (placeAt source.toList c) ∧
          d.rest.next.2.position = placeAt source.toList (c + 1) ∧
          ∀ d', TokenStream.Drains ⟨d.rest.next.2, []⟩ d' ↔
            d' = (tokenize (String.ofList (source.toList.drop (c + 1)))).shift d.rest.next.2 := by
  have hahead : ∀ k, ((Input.ofSource source).skip k).ahead = source.toList.drop k := by
    intro k
    rw [ahead_skip]
    rfl
  have hdrains : ∀ k d, TokenStream.Drains ⟨(Input.ofSource source).skip k, []⟩ d ↔
      d = (tokenize (String.ofList (source.toList.drop k))).shift ((Input.ofSource source).skip k) := by
    intro k d
    rw [drains_iff_shift, hahead]
  refine ⟨position_skip_ofSource source n, hdrains n, ?_⟩
  intro d e hd he
  obtain rfl := (TokenStream.drains_ofSource_iff source d).1 hd
  obtain ⟨c, hrest, hposition⟩ := tokenize_stopped he
  have hnext : (tokenize source).rest.next.2 = (Input.ofSource source).skip (c + 1) := by
    rw [hrest, skip_add]
    rfl
  rw [hnext]
  exact ⟨c, hposition, position_skip_ofSource source (c + 1), hdrains (c + 1)⟩

end Stylesheet
