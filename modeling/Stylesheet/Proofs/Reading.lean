import Stylesheet.TokenStream
import Mathlib.Data.List.Basic

/-!
# What reading a text to its end gives

Draining an input mixes three things: which lexemes the text is cut into, where each of them
lies, and how the input moves. This module takes them apart. `Lexeme.Cuts` is the cutting
alone, a relation between a text, the lexemes read from it and the rest that begins with none;
`Lexeme.toTokens` lays lexemes end to end from a position. Draining is then the one laid out by
the other (`drain_of_cuts`), and a property of whole runs is an induction over `Cuts`, in which
no input occurs.

The tokens of a stream may also be taken one at a time, with `TokenStream.next`, until there is
none or taking one fails. `TokenStream.Drains` describes that loop, and it too gives what
`Input.drain` gives (`drains_drain`), whatever was read ahead before.
-/

namespace Stylesheet

/-- Where the last of some tokens ends; the beginning of the text if there is none. -/
def stopOf (tokens : List Token) : Position := (tokens.getLast?.map (·.finish)).getD .start

theorem cursor_start_advance (text : List Char) : (Position.start.advance text).cursor = text.length := by
  rw [Position.advance_cursor]
  exact Int.zero_add _

namespace Lexeme

/-! ### Cutting a text -/

/-- `Cuts text ls rest`: read one after the other from the beginning of `text`, the lexemes are
`ls`; what is left, `rest`, begins with none. -/
inductive Cuts : List Char → List Lexeme → List Char → Prop where
  /-- There is nothing to read, or a character that opens no lexeme is next. -/
  | stop {rest : List Char} : first? rest = none → Cuts rest [] rest
  /-- A lexeme is next, and the text after it is cut in turn. -/
  | read {l : Lexeme} {text more rest : List Char} {ls : List Lexeme} :
      first? text = some l → text = l.spelling ++ more → Cuts more ls rest → Cuts text (l :: ls) rest

/-- Every text can be cut: a lexeme is never empty, so there is less text after each. -/
theorem exists_cuts (text : List Char) : ∃ ls rest, Cuts text ls rest := by
  induction hn : text.length using Nat.strongRecOn generalizing text with
  | _ n ih =>
    cases hl : first? text with
    | none => exact ⟨[], text, .stop hl⟩
    | some l =>
      obtain ⟨more, rfl⟩ := spelling_isPrefix hl
      have hpos := List.length_pos_iff.2 (spelling_ne_nil hl)
      obtain ⟨ls, rest, h⟩ := ih more.length (by rw [← hn, List.length_append]; omega) more rfl
      exact ⟨l :: ls, rest, .read hl rfl h⟩

/-- Whether a lexeme has the closing delimiter it should have; those without one are closed. -/
def closed : Lexeme → Bool
  | .blockComment _ closed => closed
  | .quoted _ _ closed => closed
  | _ => true

/-- The text of some lexemes, one behind the other. -/
def spelled (ls : List Lexeme) : List Char := ls.flatMap spelling

@[simp] theorem spelled_cons (l : Lexeme) (ls : List Lexeme) : spelled (l :: ls) = l.spelling ++ spelled ls := rfl

theorem spelled_append (ls ls' : List Lexeme) : spelled (ls ++ ls') = spelled ls ++ spelled ls' :=
  List.flatMap_append

theorem spelled_singleton (l : Lexeme) : spelled [l] = l.spelling := List.append_nil _

/-- Nothing is lost: the lexemes, written back, and the rest are the text. -/
theorem Cuts.text_eq {text rest : List Char} {ls : List Lexeme} (h : Cuts text ls rest) :
    text = spelled ls ++ rest := by
  induction h with
  | stop _ => rfl
  | read _ ht _ ih => rw [ht, ih, spelled_cons, List.append_assoc]

theorem Cuts.take_text {text rest : List Char} {ls : List Lexeme} (h : Cuts text ls rest) :
    text.take (spelled ls).length = spelled ls := by
  rw [h.text_eq, List.take_left]

/-! ### Laying lexemes out -/

/-- The tokens that lexemes make, the first at a position and each of the others where the one
before it ends. -/
def toTokens : Position → List Lexeme → List Token
  | _, [] => []
  | p, l :: ls => l.toToken p :: toTokens (p.advance l.spelling) ls

theorem toTokens_append (p : Position) (ls ls' : List Lexeme) :
    toTokens p (ls ++ ls') = toTokens p ls ++ toTokens (p.advance (spelled ls)) ls' := by
  induction ls generalizing p with
  | nil => rfl
  | cons l ls ih =>
    rw [List.cons_append, toTokens, toTokens, ih, spelled_cons, Position.advance_append]
    rfl

/-- The last token is that of the last lexeme, where the text of the others ends. -/
theorem getLast?_toTokens_concat (p : Position) (ls : List Lexeme) (l : Lexeme) :
    (toTokens p (ls ++ [l])).getLast? = some (l.toToken (p.advance (spelled ls))) := by
  rw [toTokens_append]
  exact List.getLast?_concat

end Lexeme

namespace Input

open Lexeme

/-! ### How the input moves -/

/-- Reading characters that are there moves the position over them. -/
theorem position_skip (i : Input) {a b : List Char} (h : i.ahead = a ++ b) :
    (i.skip a.length).position = i.position.advance a := by
  induction a generalizing i with
  | nil => rfl
  | cons c a ih =>
    have hc : i.ahead.head? = some c := by rw [h]; rfl
    have hnext : i.next.2.ahead = a ++ b := by rw [ahead_next, h]; rfl
    have hstep : i.next.2.position = i.position.step (some c) := by rw [← hc]; rfl
    rw [List.length_cons, skip, ih i.next.2 hnext, hstep, Position.advance_cons]

theorem skip_add (i : Input) (m n : Nat) : i.skip (m + n) = (i.skip m).skip n := by
  induction m generalizing i with
  | zero => rw [Nat.zero_add]; rfl
  | succ m ih => rw [Nat.succ_add]; exact ih i.next.2

/-- Reading a token reads the lexeme that is next, and moves over its spelling. -/
theorem readToken_of_first? {i : Input} {l : Lexeme} (h : first? i.ahead = some l) :
    i.readToken = .token (l.toToken i.position) (i.skip l.spelling.length) := by
  unfold readToken
  split
  · next hi => rw [hi] at h; cases h
  · rw [h]

/-- Where no lexeme is next, the text has ended or its next character is at fault. -/
theorem readToken_of_not_first? {i : Input} (h : first? i.ahead = none) :
    i.readToken = match i.ahead.head? with
      | none => .finished
      | some c => .failed (i.errorAt (.unhandled c)) := by
  unfold readToken
  split
  · next hi => rw [hi]; rfl
  · next c cs hi => rw [h, hi]; rfl

/-- A token that is read is that of the next lexeme. -/
theorem readToken_eq_token {i j : Input} {t : Token} (h : i.readToken = .token t j) :
    ∃ l, first? i.ahead = some l ∧ t = l.toToken i.position ∧ j = i.skip l.spelling.length := by
  cases hl : first? i.ahead with
  | none =>
    rw [readToken_of_not_first? hl] at h
    split at h <;> cases h
  | some l =>
    rw [readToken_of_first? hl] at h
    cases h
    exact ⟨l, rfl, rfl, rfl⟩

/-- A read fails at a character that opens no lexeme, and where its input is. -/
theorem readToken_eq_failed {i : Input} {e : LexError} (h : i.readToken = .failed e) :
    ∃ c, i.ahead.head? = some c ∧ e = i.errorAt (.unhandled c) := by
  cases hl : first? i.ahead with
  | none =>
    rw [readToken_of_not_first? hl] at h
    split at h
    · cases h
    · next c hc =>
      cases h
      exact ⟨c, hc, rfl⟩
  | some l =>
    rw [readToken_of_first? hl] at h
    cases h

/-! ### Draining -/

theorem drain_of_finished {i : Input} (h : i.readToken = .finished) : i.drain = ⟨[], none, i⟩ := by
  rw [drain]
  split <;> simp_all

theorem drain_of_failed {i : Input} {e : LexError} (h : i.readToken = .failed e) : i.drain = ⟨[], some e, i⟩ := by
  rw [drain]
  split <;> simp_all

theorem drain_of_token {i j : Input} {t : Token} (h : i.readToken = .token t j) :
    i.drain = ⟨t :: j.drain.tokens, j.drain.failure, j.drain.rest⟩ := by
  rw [drain]
  split <;> simp_all

/-- **Draining lays out what the text is cut into**, and stops where the rest begins: at the end,
or at a character that opens no lexeme, which is then the error. -/
theorem drain_of_cuts {i : Input} {ls : List Lexeme} {rest : List Char} (h : Cuts i.ahead ls rest) :
    i.drain = ⟨toTokens i.position ls,
      rest.head?.map fun c => (i.skip (spelled ls).length).errorAt (.unhandled c),
      i.skip (spelled ls).length⟩ := by
  generalize hi : i.ahead = text at h
  induction h generalizing i with
  | stop h =>
    subst hi
    have hread := readToken_of_not_first? h
    cases hc : i.ahead.head? with
    | none => rw [hc] at hread; rw [drain_of_finished hread]; rfl
    | some c => rw [hc] at hread; rw [drain_of_failed hread]; rfl
  | @read l text more rest ls hl ht _ ih =>
    have hread := readToken_of_first? (hi ▸ hl)
    have hmore : (i.skip l.spelling.length).ahead = more := by
      rw [ahead_skip, hi, ht, List.drop_left]
    rw [drain_of_token hread, ih hmore, position_skip i (hi.trans ht), spelled_cons, List.length_append, skip_add]
    rfl

/-! ### Whole sources -/

/-- The text of an input does not change while it is read, so an error names the whole source. -/
theorem text_skip_ofSource (source : String) (n : Nat) : String.ofList ((ofSource source).skip n).text = source := by
  rw [text_skip, ofSource, text_ofText, String.ofList_toList]

end Input

open Input Lexeme

/-- **What a source is read as**, from what its text is cut into. -/
theorem tokenize_of_cuts {source : String} {ls : List Lexeme} {rest : List Char} (h : Cuts source.toList ls rest) :
    tokenize source = ⟨toTokens .start ls,
      rest.head?.map fun c => ⟨.unhandled c, some (Position.start.advance (spelled ls)), some source⟩,
      (Input.ofSource source).skip (spelled ls).length⟩ := by
  have ht : (Input.ofSource source).ahead = spelled ls ++ rest := h.text_eq
  have hp := position_skip (Input.ofSource source) ht
  rw [tokenize, drain_of_cuts (i := .ofSource source) h]
  simp only [errorAt, text_skip_ofSource, hp]
  rfl

/-- An error is about the first character that opens no lexeme, and stands behind the lexemes. -/
theorem exists_cuts_of_failure {source : String} {e : LexError} (h : (tokenize source).failure = some e) :
    ∃ ls c rest, Cuts source.toList ls (c :: rest) ∧
      e = ⟨.unhandled c, some (Position.start.advance (spelled ls)), some source⟩ := by
  obtain ⟨ls, rest, hcuts⟩ := exists_cuts source.toList
  rw [tokenize_of_cuts hcuts] at h
  obtain ⟨c, hc, rfl⟩ := Option.map_eq_some_iff.1 h
  obtain ⟨more, rfl⟩ := List.head?_eq_some_iff.1 hc
  exact ⟨ls, c, more, hcuts, rfl⟩

namespace TokenStream

/-! ### Taking tokens one at a time -/

/-- `Drains s d`: taking the next token from `s` again and again gives the tokens of `d`, in
order, and then none, or the failure of `d`; the input is then the rest of `d`. -/
inductive Drains : TokenStream → Drained → Prop where
  /-- No token is left. -/
  | finished {s s' : TokenStream} : s.next = (.ok none, s') → Drains s ⟨[], none, s'.input⟩
  /-- The next token cannot be read. -/
  | failed {s s' : TokenStream} {e : LexError} : s.next = (.error (.lex e), s') → Drains s ⟨[], some e, s'.input⟩
  /-- A token is taken, and then the others. -/
  | token {s s' : TokenStream} {t : Token} {d : Drained} :
      s.next = (.ok (some t), s') → Drains s' d → Drains s ⟨t :: d.tokens, d.failure, d.rest⟩

/-- An input is drained by taking its tokens in turn. -/
theorem drains_input (i : Input) : Drains ⟨i, []⟩ i.drain := by
  fun_induction Input.drain i with
  | case1 i h =>
    have hnext : next ⟨i, []⟩ = (.ok none, ⟨i, []⟩) := by simp [next, h]
    exact .finished hnext
  | case2 i e h =>
    have hnext : next ⟨i, []⟩ = (.error (.lex e), ⟨i, []⟩) := by simp [next, h]
    exact .failed hnext
  | case3 i t j h _ more ih =>
    have hnext : next ⟨i, []⟩ = (.ok (some t), ⟨j, []⟩) := by simp [next, h]
    exact .token hnext ih

/-- **Taking tokens in turn** gives those read ahead and then those of the input. -/
theorem drains_drain (s : TokenStream) :
    s.Drains ⟨s.buffer ++ s.input.drain.tokens, s.input.drain.failure, s.input.drain.rest⟩ := by
  obtain ⟨i, buffer⟩ := s
  induction buffer with
  | nil => exact drains_input i
  | cons t buffer ih =>
    have hnext : next ⟨i, t :: buffer⟩ = (.ok (some t), ⟨i, buffer⟩) := rfl
    exact .token hnext ih

/-- Taking tokens in turn can give only one thing. -/
theorem Drains.unique {s : TokenStream} {d d' : Drained} (h : s.Drains d) (h' : s.Drains d') : d = d' := by
  induction h generalizing d' with
  | finished hn => cases h' <;> simp_all
  | failed hn => cases h' <;> simp_all
  | token hn _ ih =>
    cases h' with
    | finished hn' => rw [hn] at hn'; cases hn'
    | failed hn' => rw [hn] at hn'; cases hn'
    | token hn' hd' =>
      rw [hn] at hn'
      cases hn'
      rw [ih hd']

/-- A fresh stream, its tokens taken in turn, gives exactly what its source is read as. -/
theorem drains_ofSource_iff (source : String) (d : Drained) : (ofSource source).Drains d ↔ d = tokenize source := by
  constructor
  · intro h
    exact h.unique (drains_input (.ofSource source))
  · rintro rfl
    exact drains_input (.ofSource source)

/-- **Taking all tokens is taking them in turn** until there is none or taking one fails. -/
theorem all_eq_of_drains {s : TokenStream} {d : Drained} (h : s.Drains d) :
    s.all = (match d.failure with
      | none => .ok d.tokens
      | some e => .error (.lex e), ⟨d.rest, []⟩) := by
  rw [h.unique s.drains_drain, all]
  cases s.input.drain.failure <;> rfl

theorem all_ofSource (source : String) :
    (ofSource source).all.1 = match (tokenize source).failure with
      | none => .ok (tokenize source).tokens
      | some e => .error (.lex e) := by
  rw [all_eq_of_drains ((drains_ofSource_iff source _).2 rfl)]

/-- All tokens of a source can be taken if it is cut without a rest, and they are then laid out. -/
theorem exists_cuts_of_all {source : String} {ts : List Token} (h : (ofSource source).all.1 = .ok ts) :
    ∃ ls, Cuts source.toList ls [] ∧ toTokens .start ls = ts := by
  obtain ⟨ls, rest, hcuts⟩ := exists_cuts source.toList
  rw [all_ofSource, tokenize_of_cuts hcuts] at h
  cases rest with
  | nil => exact ⟨ls, hcuts, Except.ok.inj h⟩
  | cons c rest => cases h

end TokenStream

end Stylesheet
