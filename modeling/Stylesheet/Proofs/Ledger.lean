import Stylesheet.Proofs.Placement
import Stylesheet.Proofs.Stuck
import Stylesheet.Proofs.Tiling

/-!
# Every character of the input is read once

An input is shared: a token stream reads tokens from it, ahead of need and up to a character at
fault, and anyone may read single characters of it in between. A ledger keeps account of a session.
It says what each operation read from the input, in order, which tokens then left the stream, and
which of them were handed out.

`Reads` is what the account rests on: the portions of a ledger are the successive reads of the input
itself, by `Input.readToken` or `Input.next`, and nothing else moves it. So they cover the indices
before the place reached, each once. Every operation keeps the books balanced, also one that fails
(`moves_perform`): what it read has left the stream or is kept in it. Main statement: `run_balances`.
-/

namespace Stylesheet

open Input Lookahead

/-! ### What is read from an input -/

/-- One thing read from an input. -/
inductive Portion where
  /-- A token. -/
  | token (t : Token)
  /-- A character that was read directly, with its index. -/
  | character (index : Int)
  deriving DecidableEq, Repr

namespace Portion

/-- Whether a portion holds the character of an index. -/
def covers (k : Int) : Portion → Bool
  | .token t => t.start.cursor ≤ k && k < t.finish.cursor
  | .character index => k == index

/-- The token of a portion, if it is one. -/
def token? : Portion → Option Token
  | .token t => some t
  | .character _ => none

/-- The tokens among some portions. -/
def tokensOf (ps : List Portion) : List Token := ps.filterMap token?

theorem tokensOf_append (ps qs : List Portion) : tokensOf (ps ++ qs) = tokensOf ps ++ tokensOf qs :=
  List.filterMap_append

theorem tokensOf_map_token (ts : List Token) : tokensOf (ts.map token) = ts := by
  rw [tokensOf, List.filterMap_map]
  exact List.filterMap_some

end Portion

open Portion

/-- `Reads i ps j`: the input `i`, read token by token and character by character, gives the
portions `ps` and is then `j`. -/
inductive Reads : Input → List Portion → Input → Prop where
  /-- Nothing is read. -/
  | nil {i : Input} : Reads i [] i
  /-- A token is read first. -/
  | token {i j k : Input} {t : Token} {ps : List Portion} :
      i.readToken = .token t j → Reads j ps k → Reads i (.token t :: ps) k
  /-- A character is read first, directly. -/
  | character {i k : Input} {ps : List Portion} :
      Reads i.next.2 ps k → Reads i (.character i.position.cursor :: ps) k

namespace Reads

variable {i j k : Input} {ps qs : List Portion}

theorem append (h : Reads i ps j) (h' : Reads j qs k) : Reads i (ps ++ qs) k := by
  induction h with
  | nil => exact h'
  | token hread _ ih => exact .token hread (ih h')
  | character _ ih => exact .character (ih h')

/-- Draining an input reads its tokens one after the other. -/
theorem drain (i : Input) : Reads i (i.drain.tokens.map .token) i.drain.rest := by
  fun_induction Input.drain i with
  | case1 i _ => exact .nil
  | case2 i e _ => exact .nil
  | case3 i t j hread _ more ih => exact .token hread ih

/-- A token lies between the places of its input before and after. -/
theorem cursor_readToken {t : Token} (h : i.readToken = .token t j) :
    t.start.cursor = i.position.cursor ∧ t.finish.cursor = j.position.cursor ∧ t.start.cursor < t.finish.cursor := by
  obtain ⟨hfinish, -⟩ := readToken_position_text h
  obtain ⟨l, hl, rfl, rfl⟩ := readToken_eq_token h
  exact ⟨rfl, congrArg Position.cursor hfinish.symm, Lexeme.start_lt_finish_toToken hl _⟩

theorem cursor_next (i : Input) : i.next.2.position.cursor = i.position.cursor + 1 :=
  Position.step_cursor _ _

theorem cursor_le (h : Reads i ps j) : i.position.cursor ≤ j.position.cursor := by
  induction h with
  | nil => exact Int.le_refl _
  | token hread _ ih =>
    obtain ⟨hstart, hfinish, hlt⟩ := cursor_readToken hread
    omega
  | @character i k ps _ ih =>
    rw [cursor_next] at ih
    omega

/-- **Portions cover every index once** between the places before and after, and no other. -/
theorem countP_covers (h : Reads i ps j) (n : Int) :
    ps.countP (covers n) = if i.position.cursor ≤ n ∧ n < j.position.cursor then 1 else 0 := by
  induction h with
  | nil =>
    rw [List.countP_nil, if_neg]
    omega
  | @token i j k t ps hread hmore ih =>
    obtain ⟨hstart, hfinish, hlt⟩ := cursor_readToken hread
    have hle := hmore.cursor_le
    rw [List.countP_cons, ih]
    simp only [covers, hstart, hfinish, Bool.and_eq_true, decide_eq_true_eq]
    split_ifs <;> omega
  | @character i k ps hmore ih =>
    have hle := hmore.cursor_le
    rw [cursor_next] at ih hle
    rw [List.countP_cons, ih]
    simp only [covers, beq_iff_eq]
    split_ifs <;> omega

/-- No token read begins before the place where reading began. -/
theorem cursor_le_start (h : Reads i ps j) : ∀ t ∈ tokensOf ps, i.position.cursor ≤ t.start.cursor := by
  induction h with
  | nil => exact List.forall_mem_nil _
  | token hread _ ih =>
    obtain ⟨hstart, hfinish, hlt⟩ := cursor_readToken hread
    refine List.forall_mem_cons.2 ⟨by omega, fun u hu => ?_⟩
    have := ih u hu
    omega
  | @character i k ps _ ih =>
    intro t ht
    have := ih t ht
    rw [cursor_next] at this
    omega

/-- Every token read covers something. -/
theorem start_lt_finish (h : Reads i ps j) : ∀ t ∈ tokensOf ps, t.start.cursor < t.finish.cursor := by
  induction h with
  | nil => exact List.forall_mem_nil _
  | token hread _ ih =>
    obtain ⟨-, -, hlt⟩ := cursor_readToken hread
    exact List.forall_mem_cons.2 ⟨hlt, ih⟩
  | character _ ih => exact ih

/-- **Tokens are read in order**: none begins before the ones read earlier end. -/
theorem ordered (h : Reads i ps j) : (tokensOf ps).Pairwise fun t u => t.finish.cursor ≤ u.start.cursor := by
  induction h with
  | nil => exact List.Pairwise.nil
  | token hread hmore ih =>
    obtain ⟨-, hfinish, -⟩ := cursor_readToken hread
    refine List.pairwise_cons.2 ⟨fun u hu => ?_, ih⟩
    rw [hfinish]
    exact hmore.cursor_le_start u hu
  | character _ ih => exact ih

end Reads

/-! ### What a stream does with it -/

/-- `Moves s taken read s'`: from the stream `s` to `s'` the tokens `read` were read from the input
and the tokens `taken` left the stream; all others are kept, in order. -/
structure Moves (s : TokenStream) (taken read : List Token) (s' : TokenStream) : Prop where
  reads : Reads s.input (read.map .token) s'.input
  kept : s.buffer ++ read = taken ++ s'.buffer

namespace TokenStream

/-- A stream that is left alone. -/
theorem moves_self (s : TokenStream) : Moves s [] [] s := ⟨.nil, List.append_nil _⟩

/-- Filling the buffer keeps what it reads, also if it then fails. -/
theorem moves_fill (k : Nat) (s : TokenStream) : ∃ read, Moves s [] read (s.fill k).2 := by
  fun_induction TokenStream.fill k s with
  | case1 s => exact ⟨[], s.moves_self⟩
  | case2 _ s _ => exact ⟨[], s.moves_self⟩
  | case3 _ s e _ => exact ⟨[], s.moves_self⟩
  | case4 _ s t rest hread ih =>
    obtain ⟨read, hreads, hkept⟩ := ih
    refine ⟨t :: read, .token hread hreads, ?_⟩
    rw [← hkept, List.append_assoc]
    rfl

theorem moves_peek (s : TokenStream) (offset : Int) : ∃ read, Moves s [] read (s.peek offset).2 := by
  cases offset with
  | negSucc k => exact ⟨[], s.moves_self⟩
  | ofNat k =>
    rw [snd_peek_ofNat]
    exact moves_fill _ s

/-- Taking a token takes the first one kept, or reads one. -/
theorem moves_next (s : TokenStream) :
    ∃ read, Moves s (s.next.1.toOption.join.toList) read s.next.2 := by
  obtain ⟨i, buffer⟩ := s
  cases buffer with
  | cons t rest => exact ⟨[], .nil, List.append_nil _⟩
  | nil =>
    rw [next]
    cases hread : i.readToken with
    | finished => exact ⟨[], moves_self _⟩
    | failed e => exact ⟨[], moves_self _⟩
    | token t j => exact ⟨[t], .token hread .nil, rfl⟩

/-- Taking all tokens leaves none, whether they are handed out or lost. -/
theorem moves_all (s : TokenStream) : Moves s (s.buffer ++ s.input.drain.tokens) s.input.drain.tokens s.all.2 := by
  rw [snd_all]
  exact ⟨Reads.drain s.input, (List.append_nil _).symm⟩

end TokenStream

/-! ### Sessions -/

/-- What may be done in a session that shares its input. -/
inductive Operation where
  /-- Something is done to the tokens. -/
  | token (a : Action)
  /-- One character of the input is read directly. -/
  | inputNext
  deriving DecidableEq, Repr

/-- The command that an operation is. -/
def Operation.command : Operation → Session.Command
  | .token a => a.command
  | .inputNext => .inputNext

/-- The tokens that an answer holds; a failure holds none. -/
def Session.answered : Except StreamError Session.Reply → List Token
  | .ok reply => reply.held
  | .error _ => []

theorem Session.answered_map_token (found : Except StreamError (Option Token)) :
    answered (found.map .token) = found.toOption.join.toList := by
  cases found <;> rfl

namespace Lookahead.Action

/-- The tokens that an action hands out with its answer: to look at a token is not to take it. -/
def delivered : Action → Except StreamError Session.Reply → List Token
  | .next, answer => Session.answered answer
  | .step _, answer => Session.answered answer
  | .all, answer => Session.answered answer
  | _, _ => []

/-- The tokens that leave the stream. Taking all tokens takes them out also if it then fails. -/
def taken (s : Session) (a : Action) : List Token :=
  match a with
  | .all => s.stream.buffer ++ s.stream.input.drain.tokens
  | a => a.delivered (s.perform a.command).1

end Lookahead.Action

/-- The account of a session. -/
structure Ledger where
  /-- What was read from the input, in order. -/
  read : List Portion
  /-- The tokens that left the stream, in order. -/
  taken : List Token
  /-- The tokens that were handed out, in order. -/
  delivered : List Token
  deriving DecidableEq, Repr

namespace Session

/-- What one operation adds to the account. Tokens that have left the stream or are kept in it, and
were not kept before, have been read. -/
def entry (s : Session) : Operation → Ledger
  | .inputNext => ⟨[.character s.stream.input.position.cursor], [], []⟩
  | .token a =>
    ⟨((a.taken s ++ (s.perform a.command).2.stream.buffer).drop s.stream.buffer.length).map .token, a.taken s,
      a.delivered (s.perform a.command).1⟩

/-- The account of operations carried out one after the other. -/
def ledger (s : Session) : List Operation → Ledger
  | [] => ⟨[], [], []⟩
  | o :: os =>
    let first := s.entry o
    let more := (s.perform o.command).2.ledger os
    ⟨first.read ++ more.read, first.taken ++ more.taken, first.delivered ++ more.delivered⟩

/-- Stepping an iterator takes a token, or does nothing. -/
theorem moves_stepIterator (s : Session) (k : Nat) :
    ∃ read, Moves s.stream (s.stepIterator k).1.toOption.join.toList read (s.stepIterator k).2.stream := by
  obtain ⟨read, hmoves⟩ := s.stream.moves_next
  rw [stepIterator]
  split
  · split
    · next t stream hnext => rw [hnext] at hmoves; exact ⟨read, hmoves⟩
    · next found stream _ hnext => rw [hnext] at hmoves; exact ⟨read, hmoves⟩
  · exact ⟨[], s.stream.moves_self⟩

/-- **One action keeps the books balanced**: what it reads from the input leaves the stream or is kept
in it, in order. -/
theorem moves_perform (s : Session) (a : Action) :
    ∃ read, Moves s.stream (a.taken s) read (s.perform a.command).2.stream := by
  cases a with
  | peek offset => exact s.stream.moves_peek offset
  | next =>
    obtain ⟨read, hmoves⟩ := s.stream.moves_next
    rw [← answered_map_token] at hmoves
    exact ⟨read, hmoves⟩
  | atEnd => exact s.stream.moves_peek 0
  | all => exact ⟨_, s.stream.moves_all⟩
  | report message => exact ⟨[], s.stream.moves_self⟩
  | iterate => exact ⟨[], s.stream.moves_self⟩
  | step k =>
    obtain ⟨read, hmoves⟩ := s.moves_stepIterator k
    rw [← answered_map_token] at hmoves
    exact ⟨read, hmoves⟩

/-- The account of an action is what it did. -/
theorem moves_entry (s : Session) (a : Action) :
    Moves s.stream (s.entry (.token a)).taken (tokensOf (s.entry (.token a)).read) (s.perform a.command).2.stream ∧
      (s.entry (.token a)).read = (tokensOf (s.entry (.token a)).read).map .token := by
  obtain ⟨read, hmoves⟩ := s.moves_perform a
  have hread : (s.entry (.token a)).read = read.map .token := by
    rw [entry, ← hmoves.kept, List.drop_left]
  rw [hread, tokensOf_map_token]
  exact ⟨hmoves, rfl⟩

/-- Only a failure to take all tokens loses any. -/
theorem delivered_eq_taken (s : Session) (a : Action) :
    (s.entry (.token a)).delivered = (s.entry (.token a)).taken ∨
      a = .all ∧ (s.entry (.token a)).delivered = [] ∧ ∃ e, (s.perform a.command).1 = .error e := by
  cases a with
  | all =>
    simp only [entry, Action.taken, Action.command, perform, TokenStream.all]
    cases s.stream.input.drain.failure with
    | none => exact .inl rfl
    | some e => exact .inr ⟨trivial, rfl, _, rfl⟩
  | _ => exact .inl rfl

/-- **One operation** reads what its account says, and every token read has left the stream or is
kept. -/
theorem entry_balances (s : Session) (o : Operation) :
    Reads s.stream.input (s.entry o).read (s.perform o.command).2.stream.input ∧
      s.stream.buffer ++ tokensOf (s.entry o).read = (s.entry o).taken ++ (s.perform o.command).2.stream.buffer ∧
      (s.entry o).delivered.Sublist (s.entry o).taken := by
  cases o with
  | inputNext => exact ⟨.character .nil, List.append_nil _, List.Sublist.refl _⟩
  | token a =>
    obtain ⟨⟨hreads, hkept⟩, hread⟩ := s.moves_entry a
    refine ⟨hread ▸ hreads, hkept, ?_⟩
    rcases s.delivered_eq_taken a with hsame | ⟨-, hnone, -⟩
    · rw [hsame]
    · rw [hnone]
      exact List.nil_sublist _

/-- **A run of operations** does so too. -/
theorem ledger_balances (s : Session) (os : List Operation) :
    Reads s.stream.input (s.ledger os).read (s.run (os.map Operation.command)).2.stream.input ∧
      s.stream.buffer ++ tokensOf (s.ledger os).read =
        (s.ledger os).taken ++ (s.run (os.map Operation.command)).2.stream.buffer ∧
      (s.ledger os).delivered.Sublist (s.ledger os).taken := by
  induction os generalizing s with
  | nil => exact ⟨.nil, List.append_nil _, List.Sublist.refl _⟩
  | cons o os ih =>
    obtain ⟨hreads, hkept, hdelivered⟩ := s.entry_balances o
    obtain ⟨hreads', hkept', hdelivered'⟩ := ih (s.perform o.command).2
    refine ⟨hreads.append hreads', ?_, hdelivered.append hdelivered'⟩
    simp only [ledger, List.map_cons, run]
    rw [tokensOf_append, ← List.append_assoc, hkept, List.append_assoc, hkept', List.append_assoc]

/-! ### The account of a session -/

/-- `Balanced source l s`: the account `l` is that of a session on `source` that has come to `s`. -/
structure Balanced (source : String) (l : Ledger) (s : Session) : Prop where
  /-- What was read are the successive reads of the input. -/
  reads : Reads (.ofSource source) l.read s.stream.input
  /-- Every index before the place of the input was read once, and no other index was. -/
  covered : ∀ k : Int, l.read.countP (covers k) = if 0 ≤ k ∧ k < s.stream.input.position.cursor then 1 else 0
  /-- Every token covers something. -/
  nonempty : ∀ t ∈ tokensOf l.read, t.start.cursor < t.finish.cursor
  /-- Tokens were read one behind the other. -/
  ordered : (tokensOf l.read).Pairwise fun t u => t.finish.cursor ≤ u.start.cursor
  /-- A token that was read has left the stream or is kept in it, in the order of reading. -/
  accounted : tokensOf l.read = l.taken ++ s.stream.buffer
  /-- What was handed out has left the stream, in the same order. -/
  delivered : l.delivered.Sublist l.taken
  /-- Tokens handed out, and those kept, lie one behind the other. -/
  inOrder : (l.delivered ++ s.stream.buffer).Pairwise fun t u => t.finish.cursor ≤ u.start.cursor

/-- `FailsSafely s`: what may happen next in the session `s` loses no token, unless taking all tokens
fails, and does not go past a character at fault. -/
structure FailsSafely (s : Session) : Prop where
  /-- A direct read does not touch the tokens kept. -/
  untouched : (s.perform .inputNext).2.stream.buffer = s.stream.buffer
  /-- If an action fails, the tokens kept before and those it read itself are kept, in order. -/
  kept : ∀ (a : Action) e, a ≠ .all → (s.perform a.command).1 = .error e →
    Reads s.stream.input (s.entry (.token a)).read (s.perform a.command).2.stream.input ∧
      (s.perform a.command).2.stream.buffer = s.stream.buffer ++ tokensOf (s.entry (.token a)).read
  /-- All tokens that leave the stream are handed out, unless taking all tokens fails. -/
  lost : ∀ a : Action, (s.entry (.token a)).delivered ≠ (s.entry (.token a)).taken →
    a = .all ∧ ∃ e, (s.perform a.command).1 = .error e
  /-- After an action has failed to read a token, the input is at the character that the error names. -/
  stopped : ∀ (a : Action) e, (∀ message, a ≠ .report message) → (s.perform a.command).1 = .error (.lex e) →
    ∃ c, e.fault = .unhandled c ∧ (s.perform a.command).2.stream.input.peek 0 = some c ∧
      e.position = some (s.perform a.command).2.stream.input.position
  /-- As long as nobody reads the input directly, every later action that needs a token which is not
  kept fails with the same error. -/
  again : ∀ (a : Action) e, (∀ message, a ≠ .report message) → (s.perform a.command).1 = .error (.lex e) →
    ∀ (as : List Action) (b : Action), b.Beyond ((s.perform a.command).2.run (as.map Action.command)).2 →
      (((s.perform a.command).2.run (as.map Action.command)).2.perform b.command).1 = .error (.lex e)

theorem failsSafely (s : Session) : s.FailsSafely := by
  constructor
  case untouched => rfl
  case kept =>
    intro a e hall herror
    obtain ⟨hreads, hkept, -⟩ := s.entry_balances (.token a)
    have hnone : (s.entry (.token a)).taken = [] := by
      cases a with
      | all => exact absurd rfl hall
      | next => exact congrArg answered herror
      | step k => exact congrArg answered herror
      | _ => rfl
    rw [hnone, List.nil_append] at hkept
    exact ⟨hreads, hkept.symm⟩
  case lost =>
    intro a hne
    rcases s.delivered_eq_taken a with hsame | ⟨hall, -, herror⟩
    · exact absurd hsame hne
    · exact ⟨hall, herror⟩
  case stopped =>
    intro a e ha herror
    exact (stuck_of_perform ha herror).at_fault
  case again =>
    intro a e ha herror as b hb
    exact error_of_beyond (stuck_run (stuck_of_perform ha herror) as) hb

/-- **Nothing is lost and nothing is read twice.** Whatever is done to the tokens of a session on a
source, and however often its input is read directly in between, the tokens read and the characters
read directly cover the text up to the place of the input, each index once; the tokens are read and
handed out in order; and a failure loses none of them, unless it is that of taking all tokens, and
leaves the input at the character at fault until someone reads it directly. -/
theorem run_balances (source : String) (os : List Operation) :
    Balanced source ((ofSource source).ledger os) ((ofSource source).run (os.map Operation.command)).2 ∧
      FailsSafely ((ofSource source).run (os.map Operation.command)).2 := by
  obtain ⟨hreads, hkept, hdelivered⟩ := (ofSource source).ledger_balances os
  have haccounted : tokensOf ((ofSource source).ledger os).read =
      ((ofSource source).ledger os).taken ++ ((ofSource source).run (os.map Operation.command)).2.stream.buffer := hkept
  refine ⟨?_, failsSafely _⟩
  constructor
  case reads => exact hreads
  case covered => exact hreads.countP_covers
  case nonempty => exact hreads.start_lt_finish
  case ordered => exact hreads.ordered
  case accounted => exact haccounted
  case delivered => exact hdelivered
  case inOrder =>
    refine hreads.ordered.sublist ?_
    rw [haccounted]
    exact hdelivered.append_right _

end Session

end Stylesheet
