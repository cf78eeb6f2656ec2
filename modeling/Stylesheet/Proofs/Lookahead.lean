import Stylesheet.Session
import Stylesheet.Proofs.Reading

/-!
# Looking ahead changes nothing but how far the input is read

A token stream keeps the tokens it has looked at in a buffer, fails in the middle of a look
ahead with part of it already buffered, and is shared by any number of iterators. None of this
shows. What a session on a source answers is decided by what the source is read as, once and for
all, and by two numbers: how many tokens have been taken, and how many have been read.

`Counters` is that account. Its operations look tokens up in the reading of the whole source and
keep no buffer and no input. `Tracks` relates it to a session: the buffer is what was read and
not yet taken, and draining the input gives what was not yet read. Every operation keeps the
relation and gives the same answer (`tracks_perform`), and so does every run of operations
(`run_eq_account`).
-/

namespace Stylesheet

open Input

namespace Lookahead

/-! ### The account -/

/-- What may be done to the tokens of a session without touching its input. -/
inductive Action where
  /-- Look at the token at an offset. -/
  | peek (offset : Int)
  /-- Take the next token. -/
  | next
  /-- Ask whether no token is left. -/
  | atEnd
  /-- Take all tokens. -/
  | all
  /-- Report an error at the place the input has reached. -/
  | report (message : String)
  /-- Make a new iterator. -/
  | iterate
  /-- Step an iterator. -/
  | step (iterator : Nat)
  deriving DecidableEq, Repr

/-- The command that an action is. -/
def Action.command : Action → Session.Command
  | .peek offset => .peek offset
  | .next => .next
  | .atEnd => .atEnd
  | .all => .all
  | .report message => .report message
  | .iterate => .iterate
  | .step k => .step k

/-- How far the tokens of a source have come. -/
structure Counters where
  /-- How many tokens have been taken. -/
  taken : Nat
  /-- How many tokens have been read. -/
  read : Nat
  /-- Whether each iterator is alive, the newest first. -/
  iterators : List Bool
  deriving DecidableEq, Repr

/-- Nothing has been read, and there is one iterator. -/
def Counters.start : Counters := ⟨0, 0, [true]⟩

/-- The token with a given number, counted from 0. Behind the last one there is none, or the
failure that ended reading. -/
def entry (d : Drained) (k : Nat) : Except StreamError (Option Token) :=
  match d.tokens[k]? with
  | some t => .ok (some t)
  | none =>
    match d.failure with
    | none => .ok none
    | some e => .error (.lex e)

/-- Taking the next token. Behind the last one nothing changes. -/
def Counters.next (d : Drained) (m : Counters) : Except StreamError (Option Token) × Counters :=
  if m.taken < d.tokens.length then
    (entry d m.taken, { m with taken := m.taken + 1, read := max m.read (m.taken + 1) })
  else (entry d m.taken, m)

/-- Looking at the token at an offset, for which the tokens up to it have to be read. -/
def Counters.peek (d : Drained) (m : Counters) (k : Nat) : Except StreamError (Option Token) × Counters :=
  (entry d (m.taken + k), { m with read := max m.read (min (m.taken + k + 1) d.tokens.length) })

/-- Stepping an iterator. A live one takes the next token, and dies behind the last; a dead one
does nothing. -/
def Counters.stepIterator (d : Drained) (m : Counters) (k : Nat) : Except StreamError (Option Token) × Counters :=
  if m.iterators[k]? = some true then
    if m.taken < d.tokens.length then m.next d
    else (entry d m.taken, { m with iterators := m.iterators.set k false })
  else (.ok none, m)

/-- The answer to an action, and the numbers after it. -/
def Counters.perform (source : String) (d : Drained) (m : Counters) :
    Action → Except StreamError Session.Reply × Counters
  | .peek (.ofNat k) => ((m.peek d k).1.map .token, (m.peek d k).2)
  | .peek (.negSucc _) => (.error .negativeOffset, m)
  | .next => ((m.next d).1.map .token, (m.next d).2)
  | .atEnd => ((m.peek d 0).1.map fun t => .flag t.isNone, (m.peek d 0).2)
  | .all =>
    (match d.failure with
      | none => .ok (.tokens (d.tokens.drop m.taken))
      | some e => .error (.lex e),
      ⟨d.tokens.length, d.tokens.length, m.iterators⟩)
  | .report message => (.error (.lex ⟨.reported message, some (stopOf (d.tokens.take m.read)), some source⟩), m)
  | .iterate => (.ok .nothing, ⟨m.taken, m.read, true :: m.iterators⟩)
  | .step k => ((m.stepIterator d k).1.map .token, (m.stepIterator d k).2)

/-- The answers to actions one after the other, each with the place where the tokens read by then
end, and the numbers after them. -/
def Counters.run (source : String) (d : Drained) (m : Counters) :
    List Action → List (Except StreamError Session.Reply × Position) × Counters
  | [] => ([], m)
  | a :: as =>
    let (answer, m') := m.perform source d a
    let (answers, last) := m'.run source d as
    ((answer, stopOf (d.tokens.take m'.read)) :: answers, last)

/-! ### The input -/

/-- `InputAt source d r i`: of the tokens of `d`, the input `i` on `source` has `r` behind it. -/
structure InputAt (source : String) (d : Drained) (r : Nat) (i : Input) : Prop where
  read_le : r ≤ d.tokens.length
  drain : i.drain = ⟨d.tokens.drop r, d.failure, d.rest⟩
  position : i.position = stopOf (d.tokens.take r)
  text : i.text = source.toList

variable {source : String} {d : Drained}

theorem inputAt_ofSource (source : String) : InputAt source (tokenize source) 0 (.ofSource source) :=
  ⟨Nat.zero_le _, rfl, rfl, text_ofText _⟩

/-- Reading a token goes to where it ends, in the same text. -/
theorem readToken_position_text {i j : Input} {t : Token} (h : i.readToken = .token t j) :
    j.position = t.finish ∧ j.text = i.text := by
  obtain ⟨l, hl, rfl, rfl⟩ := readToken_eq_token h
  obtain ⟨more, hmore⟩ := Lexeme.spelling_isPrefix hl
  exact ⟨position_skip i hmore.symm, text_skip _ i⟩

/-- Where a token is left, the input reads it. -/
theorem InputAt.token {r : Nat} {i : Input} {t : Token} (h : InputAt source d r i) (ht : d.tokens[r]? = some t) :
    ∃ j, i.readToken = .token t j ∧ InputAt source d (r + 1) j := by
  obtain ⟨hr, rfl⟩ := List.getElem?_eq_some_iff.1 ht
  have hd := h.drain
  rw [List.drop_eq_getElem_cons hr] at hd
  cases hread : i.readToken with
  | finished => rw [drain_of_finished hread] at hd; cases hd
  | failed e => rw [drain_of_failed hread] at hd; cases hd
  | token t j =>
    rw [drain_of_token hread] at hd
    simp only [Drained.mk.injEq, List.cons.injEq] at hd
    obtain ⟨⟨rfl, htokens⟩, hfailure, hrest⟩ := hd
    obtain ⟨hposition, htext⟩ := readToken_position_text hread
    refine ⟨j, rfl, hr, ?_, ?_, htext.trans h.text⟩
    · rw [← htokens, ← hfailure, ← hrest]
    · rw [hposition, List.take_succ_eq_append_getElem hr, stopOf, List.getLast?_concat]
      rfl

/-- Where no token is left, the input has ended or fails. -/
theorem InputAt.stop {i : Input} (h : InputAt source d d.tokens.length i) :
    (i.readToken = match d.failure with
      | none => .finished
      | some e => .failed e) ∧ d.rest = i := by
  have hd := h.drain
  rw [List.drop_length] at hd
  cases hread : i.readToken with
  | finished =>
    rw [drain_of_finished hread, Drained.mk.injEq] at hd
    obtain ⟨-, hfailure, hrest⟩ := hd
    exact ⟨by rw [← hfailure], hrest.symm⟩
  | failed e =>
    rw [drain_of_failed hread, Drained.mk.injEq] at hd
    obtain ⟨-, hfailure, hrest⟩ := hd
    exact ⟨by rw [← hfailure], hrest.symm⟩
  | token t j => rw [drain_of_token hread] at hd; cases hd

/-- The input that draining leaves has all tokens behind it. -/
theorem InputAt.rest {r : Nat} {i : Input} (h : InputAt source d r i) : InputAt source d d.tokens.length d.rest := by
  induction hn : d.tokens.length - r generalizing r i with
  | zero =>
    obtain rfl : r = d.tokens.length := by have := h.read_le; omega
    rw [h.stop.2]
    exact h
  | succ n ih =>
    obtain ⟨j, -, hj⟩ := h.token (List.getElem?_eq_getElem (show r < d.tokens.length by omega))
    exact ih hj (by omega)

/-! ### The stream -/

/-- `StreamAt source d n r s`: of the tokens of `d`, `n` have been taken from the stream `s` and
`r` have been read. Those between are in the buffer. -/
structure StreamAt (source : String) (d : Drained) (n r : Nat) (s : TokenStream) : Prop where
  taken_le : n ≤ r
  buffer : s.buffer = (d.tokens.take r).drop n
  input : InputAt source d r s.input

/-- How filling the buffer ends when it meets the end of the tokens. -/
def shortfall (d : Drained) : Except LexError Unit :=
  match d.failure with
  | none => .ok ()
  | some e => .error e

/-- Filling the buffer reads tokens as far as there are any, and keeps them also if it then fails. -/
theorem fill_eq (k : Nat) {r : Nat} {s : TokenStream} (h : InputAt source d r s.input) :
    ∃ j, s.fill k = (if r + k ≤ d.tokens.length then .ok () else shortfall d,
        ⟨j, s.buffer ++ (d.tokens.drop r).take k⟩) ∧
      InputAt source d (min (r + k) d.tokens.length) j := by
  induction k generalizing r s with
  | zero =>
    have hr := h.read_le
    refine ⟨s.input, ?_, by rwa [Nat.add_zero, Nat.min_eq_left hr]⟩
    rw [if_pos (by omega), List.take_zero, List.append_nil]
    rfl
  | succ k ih =>
    by_cases hr : r < d.tokens.length
    · obtain ⟨j, hread, hj⟩ := h.token (List.getElem?_eq_getElem hr)
      obtain ⟨j', hfill, hj'⟩ := ih (s := ⟨j, s.buffer ++ [d.tokens[r]]⟩) hj
      rw [show r + (k + 1) = r + 1 + k by omega]
      refine ⟨j', ?_, hj'⟩
      rw [TokenStream.fill, hread]
      simp only
      rw [hfill, List.append_assoc, List.drop_eq_getElem_cons hr, List.take_succ_cons]
      rfl
    · obtain rfl : r = d.tokens.length := by have := h.read_le; omega
      rw [if_neg (by omega), List.drop_length, List.take_nil, List.append_nil, Nat.min_eq_right (by omega)]
      refine ⟨s.input, ?_, h⟩
      rw [TokenStream.fill, h.stop.1, shortfall]
      cases d.failure <;> rfl

theorem entry_of_lt {k : Nat} (hk : k < d.tokens.length) : entry d k = .ok (some d.tokens[k]) := by
  rw [entry, List.getElem?_eq_getElem hk]

/-- Looking ahead gives the token with that number, and reads up to it. -/
theorem StreamAt.peek {n r : Nat} {s : TokenStream} (h : StreamAt source d n r s) (k : Nat) :
    ∃ s', s.peek (.ofNat k) = (entry d (n + k), s') ∧
      StreamAt source d n (max r (min (n + k + 1) d.tokens.length)) s' := by
  have hn := h.taken_le
  have hr := h.input.read_le
  have hlength : s.buffer.length = r - n := by
    rw [h.buffer, List.length_drop, List.length_take, Nat.min_eq_left hr]
  obtain ⟨j, hfill, hj⟩ := fill_eq (k + 1 - s.buffer.length) h.input
  -- filling reads as far as the look ahead needs, or not at all
  have hread : min (r + (k + 1 - s.buffer.length)) d.tokens.length = max r (min (n + k + 1) d.tokens.length) := by
    rw [hlength]; omega
  have hbuffer : s.buffer ++ (d.tokens.drop r).take (k + 1 - s.buffer.length) =
      (d.tokens.take (max r (min (n + k + 1) d.tokens.length))).drop n := by
    rw [← hread, ← List.take_eq_take_min, List.take_add, List.drop_append_of_le_length, ← h.buffer]
    rw [List.length_take, Nat.min_eq_left hr]
    exact hn
  rw [hbuffer] at hfill
  rw [hread] at hj
  refine ⟨⟨j, (d.tokens.take (max r (min (n + k + 1) d.tokens.length))).drop n⟩, ?_,
    Nat.le_trans hn (Nat.le_max_left _ _), rfl, hj⟩
  rw [TokenStream.peek, hfill]
  by_cases hk : n + k < d.tokens.length
  · rw [if_pos (by omega), entry_of_lt hk]
    simp only
    rw [List.getElem?_drop, List.getElem?_take_of_lt (by omega), List.getElem?_eq_getElem hk]
  · have hnone : d.tokens[n + k]? = none := List.getElem?_eq_none (by omega)
    rw [if_neg (by omega), entry, hnone, shortfall]
    cases d.failure with
    | none =>
      simp only
      rw [List.getElem?_drop, List.getElem?_eq_none (by rw [List.length_take]; omega)]
    | some e => rfl

/-- Taking the next token. -/
theorem StreamAt.next {n r : Nat} {s : TokenStream} (h : StreamAt source d n r s) (hn : n < d.tokens.length) :
    ∃ s', s.next = (.ok (some d.tokens[n]), s') ∧ StreamAt source d (n + 1) (max r (n + 1)) s' := by
  have hle := h.taken_le
  have hr := h.input.read_le
  obtain ⟨i, buffer⟩ := s
  obtain rfl : buffer = (d.tokens.take r).drop n := h.buffer
  by_cases hnr : n < r
  · -- the token has been read already
    have hlt : n < (d.tokens.take r).length := by rw [List.length_take]; omega
    refine ⟨⟨i, (d.tokens.take r).drop (n + 1)⟩, ?_, Nat.le_max_right _ _, ?_, ?_⟩
    · rw [TokenStream.next, List.drop_eq_getElem_cons hlt, List.getElem_take]
    · rw [Nat.max_eq_left hnr]
    · rw [Nat.max_eq_left hnr]; exact h.input
  · obtain rfl : n = r := by omega
    obtain ⟨j, hread, hj⟩ := h.input.token (List.getElem?_eq_getElem hn)
    have hempty : (d.tokens.take n).drop n = [] := List.drop_eq_nil_of_le (List.length_take_le _ _)
    refine ⟨⟨j, []⟩, ?_, Nat.le_max_right _ _, ?_, ?_⟩
    · rw [TokenStream.next, hempty]
      simp only
      rw [hread]
    · rw [Nat.max_eq_right (Nat.le_succ n)]
      exact (List.drop_eq_nil_of_le (List.length_take_le _ _)).symm
    · rw [Nat.max_eq_right (Nat.le_succ n)]; exact hj

/-- Taking a token behind the last one. -/
theorem StreamAt.next_stop {r : Nat} {s : TokenStream} (h : StreamAt source d d.tokens.length r s) :
    s.next = (entry d d.tokens.length, s) := by
  obtain rfl : r = d.tokens.length := by have := h.taken_le; have := h.input.read_le; omega
  obtain ⟨i, buffer⟩ := s
  obtain rfl : buffer = [] := h.buffer.trans (List.drop_eq_nil_of_le (List.length_take_le _ _))
  rw [TokenStream.next]
  simp only
  rw [h.input.stop.1, entry, List.getElem?_eq_none (Nat.le_refl _)]
  cases d.failure <;> rfl

/-- Taking all tokens. -/
theorem StreamAt.all {n r : Nat} {s : TokenStream} (h : StreamAt source d n r s) :
    s.all = (match d.failure with
        | none => .ok (d.tokens.drop n)
        | some e => .error (.lex e), ⟨d.rest, []⟩) ∧
      StreamAt source d d.tokens.length d.tokens.length ⟨d.rest, []⟩ := by
  have htokens : s.buffer ++ d.tokens.drop r = d.tokens.drop n := by
    have hlength : n ≤ (d.tokens.take r).length := by
      rw [List.length_take, Nat.min_eq_left h.input.read_le]
      exact h.taken_le
    rw [h.buffer, ← List.drop_append_of_le_length hlength, List.take_append_drop]
  refine ⟨?_, Nat.le_refl _, ?_, h.input.rest⟩
  · rw [TokenStream.all, h.input.drain]
    simp only
    rw [htokens]
    cases d.failure <;> rfl
  · rw [List.drop_eq_nil_of_le (List.length_take_le _ _)]

/-! ### The session -/

/-- `Tracks source d s m`: the session `s` on `source` is where the numbers `m` say. -/
structure Tracks (source : String) (d : Drained) (s : Session) (m : Counters) : Prop where
  /-- The stream has come as far as the numbers. -/
  stream : StreamAt source d m.taken m.read s.stream
  /-- The same iterators are alive. -/
  iterators : s.iterators = m.iterators

/-- A session begins where the numbers do. -/
theorem tracks_start (source : String) : Tracks source (tokenize source) (.ofSource source) .start :=
  ⟨⟨Nat.le_refl _, rfl, inputAt_ofSource source⟩, rfl⟩

/-- Taking a token, whether one is left or not. -/
theorem Tracks.next {s : Session} {m : Counters} (h : Tracks source d s m) :
    ∃ stream, s.stream.next = ((m.next d).1, stream) ∧ Tracks source d ⟨stream, s.iterators⟩ (m.next d).2 := by
  rw [Counters.next]
  by_cases hn : m.taken < d.tokens.length
  · obtain ⟨stream, hnext, hs⟩ := h.stream.next hn
    rw [if_pos hn, entry_of_lt hn]
    exact ⟨stream, hnext, hs, h.iterators⟩
  · have hend : m.taken = d.tokens.length := by
      have := h.stream.taken_le; have := h.stream.input.read_le; omega
    have hs := h.stream
    rw [hend] at hs
    rw [if_neg hn, hend]
    exact ⟨s.stream, hs.next_stop, h.stream, h.iterators⟩

/-- Stepping an iterator, whether it is alive or not. -/
theorem Tracks.stepIterator {s : Session} {m : Counters} (h : Tracks source d s m) (k : Nat) :
    ∃ s', s.stepIterator k = ((m.stepIterator d k).1, s') ∧ Tracks source d s' (m.stepIterator d k).2 := by
  obtain ⟨stream, hnext, hs⟩ := h.next
  rw [Session.stepIterator, Counters.stepIterator, ← h.iterators]
  by_cases hlive : s.iterators[k]? = some true
  · rw [if_pos hlive, hlive]
    simp only
    by_cases hn : m.taken < d.tokens.length
    · have hanswer : (m.next d).1 = .ok (some d.tokens[m.taken]) := by rw [Counters.next, if_pos hn, entry_of_lt hn]
      rw [if_pos hn, hnext, hanswer]
      exact ⟨_, rfl, hs⟩
    · -- behind the last token the answer is no token, so the iterator dies
      rw [Counters.next, if_neg hn] at hnext hs
      rw [if_neg hn, hnext, entry, List.getElem?_eq_none (by omega)]
      refine ⟨⟨stream, s.iterators.set k false⟩, ?_, hs.stream, rfl⟩
      cases d.failure <;> rfl
  · rw [if_neg hlive]
    refine ⟨s, ?_, h⟩
    split
    · next hk => exact absurd hk hlive
    · rfl

/-- **One action**: the session answers as the account does, and is then where the account is. -/
theorem tracks_perform {s : Session} {m : Counters} (h : Tracks source d s m) (a : Action) :
    (s.perform a.command).1 = (m.perform source d a).1 ∧
      Tracks source d (s.perform a.command).2 (m.perform source d a).2 := by
  cases a with
  | peek offset =>
    cases offset with
    | ofNat k =>
      obtain ⟨stream, hpeek, hs⟩ := h.stream.peek k
      simp only [Action.command, Session.perform, hpeek]
      exact ⟨rfl, hs, h.iterators⟩
    | negSucc k => exact ⟨rfl, h.stream, h.iterators⟩
  | next =>
    obtain ⟨stream, hnext, hs⟩ := h.next
    simp only [Action.command, Session.perform, hnext]
    exact ⟨rfl, hs⟩
  | atEnd =>
    obtain ⟨stream, hpeek, hs⟩ := h.stream.peek 0
    have hatEnd : s.stream.atEnd = ((m.peek d 0).1.map (·.isNone), stream) := by
      rw [TokenStream.atEnd, show (0 : Int) = .ofNat 0 from rfl, hpeek]
      rfl
    simp only [Action.command, Session.perform, hatEnd, Counters.perform]
    refine ⟨?_, hs, h.iterators⟩
    cases (m.peek d 0).1 <;> rfl
  | all =>
    obtain ⟨hall, hs⟩ := h.stream.all
    simp only [Action.command, Session.perform, hall, Counters.perform]
    refine ⟨?_, hs, h.iterators⟩
    cases d.failure <;> rfl
  | report message =>
    refine ⟨?_, h⟩
    simp only [Action.command, Session.perform, Counters.perform, TokenStream.errorAt, Input.errorAt]
    rw [h.stream.input.position, h.stream.input.text, String.ofList_toList]
  | iterate =>
    refine ⟨rfl, h.stream, ?_⟩
    exact congrArg (true :: ·) h.iterators
  | step k =>
    obtain ⟨s', hstep, hs⟩ := h.stepIterator k
    simp only [Action.command, Session.perform, hstep]
    exact ⟨rfl, hs⟩

/-- Any number of actions. -/
theorem tracks_run {s : Session} {m : Counters} (h : Tracks source d s m) (as : List Action) :
    (s.run (as.map Action.command)).1 = (m.run source d as).1 ∧
      Tracks source d (s.run (as.map Action.command)).2 (m.run source d as).2 := by
  induction as generalizing s m with
  | nil => exact ⟨rfl, h⟩
  | cons a as ih =>
    obtain ⟨hanswer, hnext⟩ := tracks_perform h a
    obtain ⟨hanswers, hlast⟩ := ih hnext
    refine ⟨?_, hlast⟩
    simp only [List.map_cons, Session.run, Counters.run]
    rw [hanswer, hanswers, hnext.stream.input.position]

/-- **Looking ahead is transparent.** A fresh stream gives, its tokens taken one at a time, what
the source is read as. A session on the source, whatever is done to its tokens and in whatever
order, answers as the account of that reading does and stays where the account is: the numbers
of tokens taken and read are in order, and the tokens between them are in the buffer. -/
theorem run_eq_account (source : String) (as : List Action) :
    (∀ d, (TokenStream.ofSource source).Drains d ↔ d = tokenize source) ∧
      ((Session.ofSource source).run (as.map Action.command)).1 =
        (Counters.start.run source (tokenize source) as).1 ∧
      Tracks source (tokenize source) ((Session.ofSource source).run (as.map Action.command)).2
        (Counters.start.run source (tokenize source) as).2 :=
  ⟨TokenStream.drains_ofSource_iff source, tracks_run (tracks_start source) as⟩

end Lookahead

end Stylesheet
