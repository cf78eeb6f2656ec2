import Stylesheet.Proofs.Ledger
import Stylesheet.Proofs.Stepwise

/-!
# Reading makes progress and comes to an end

An input may be read past the end of its text, and nothing but the care of its readers keeps them from doing so.
They never do: whatever reading a token comes to, the reads that it made gave characters that were ahead
(`Input.Passes`). If it comes to a token, there was at least one. So before the end of the text every read of a
token fails where the input is or takes it further, and at the end there is no token (`advances`).

What is left of the text is therefore a bound for every loop over tokens. The loops of a stream are given here
with a number of rounds after which they are given up (`TokenStream.peekWithin`, `TokenStream.allWithin`). With
more rounds than characters are left, they come to the end that `TokenStream.peek` and `TokenStream.all` tell
of, and an iterator is dead by then (`halts`). Main statement: `reading_halts`.
-/

namespace Stylesheet

open Input Lookahead Portion

variable {text : List Char} {c : Nat}

/-! ### Reads of characters -/

namespace Input

/-- `Passes i cs j`: the input `j` is `i` after the characters `cs` were read, each of which was ahead. -/
structure Passes (i : Input) (cs : List Char) (j : Input) : Prop where
  /-- They stood in front of what is ahead now. -/
  ahead : i.ahead = cs ++ j.ahead
  /-- Each read gave one of them. So no read was made at the end, where it gives nothing. -/
  reads : j.reads = (cs.map some).reverse ++ i.reads
  /-- The position has moved over them. -/
  position : j.position = i.position.advance cs

variable {i j k : Input} {cs ds : List Char}

theorem passes_self (i : Input) : i.Passes [] i := ⟨rfl, rfl, rfl⟩

theorem Passes.trans (h : i.Passes cs j) (h' : j.Passes ds k) : i.Passes (cs ++ ds) k where
  ahead := by rw [h.ahead, h'.ahead, List.append_assoc]
  reads := by rw [h'.reads, h.reads, List.map_append, List.reverse_append, List.append_assoc]
  position := by rw [h'.position, h.position, Position.advance_append]

theorem reads_skip {more : List Char} (h : i.ahead = cs ++ more) :
    (i.skip cs.length).reads = (cs.map some).reverse ++ i.reads := by
  induction cs generalizing i with
  | nil => rfl
  | cons c cs ih =>
    obtain ⟨hread, hnext⟩ := next_of_ahead h
    have hlog : i.next.2.reads = some c :: i.reads := congrArg (· :: i.reads) hread
    rw [List.length_cons, skip, ih hnext, hlog, List.map_cons, List.reverse_cons, List.append_assoc]
    rfl

/-- As many characters may be read as are ahead. -/
theorem passes_skip {more : List Char} (h : i.ahead = cs ++ more) : i.Passes cs (i.skip cs.length) where
  ahead := by rw [ahead_skip, h, List.drop_left]
  reads := reads_skip h
  position := position_skip i h

/-- Reading a token reads the characters of a lexeme, and at least one. -/
theorem passes_readToken {t : Token} (h : i.readToken = .token t j) : ∃ cs, cs ≠ [] ∧ i.Passes cs j := by
  obtain ⟨l, hl, rfl, rfl⟩ := readToken_eq_token h
  obtain ⟨more, hmore⟩ := Lexeme.spelling_isPrefix hl
  exact ⟨l.spelling, Lexeme.spelling_ne_nil hl, passes_skip hmore.symm⟩

/-! ### Reads of one token -/

/-- `AtCursor text c i`: the input `i` on `text` is at the cursor `c`, which may lie behind the end. Nothing is said of
its line and its column. -/
structure AtCursor (text : List Char) (c : Nat) (i : Input) : Prop where
  /-- What lies before the cursor is no longer ahead. -/
  ahead : i.ahead = text.drop c
  /-- The position has that cursor. -/
  cursor : i.position.cursor = c

theorem AtCursor.length_le (h : i.AtCursor text c) (hp : i.Passes cs j) : cs.length ≤ text.length - c := by
  have hlength := congrArg List.length (h.ahead.symm.trans hp.ahead)
  rw [List.length_drop, List.length_append] at hlength
  omega

theorem AtCursor.passes (h : i.AtCursor text c) (hp : i.Passes cs j) : j.AtCursor text (c + cs.length) where
  ahead := by
    rw [← List.drop_drop, ← h.ahead, hp.ahead, List.drop_left]
  cursor := by
    rw [hp.position, Position.advance_cursor, h.cursor]
    exact (Int.natCast_add c cs.length).symm

/-- However an input on a text has been read, it is at the cursor that counts its reads. -/
theorem On.atCursor (h : i.On text) : i.AtCursor text i.reads.length where
  ahead := h.ahead
  cursor := congrArg Position.cursor h.position

/-- `Advances text c i`: what reading a token does to the input `i`, at the cursor `c` of a text. -/
structure Advances (text : List Char) (c : Nat) (i : Input) : Prop where
  /-- Character by character it is done with the same outcome, and by the same reads. -/
  stepwise : i.readStepwise = i.readToken.answer i
  /-- At the end and behind it there is no token, and nothing is read. -/
  finished : text.length ≤ c → i.readStepwise = (.ok none, i)
  /-- Before the end there is an error, and nothing is read, or there is a token. It ends further on, but not behind
  the end, and the input is then where it ends. -/
  advanced : c < text.length → (∃ e, i.readStepwise = (.error e, i)) ∨
    ∃ t j, ∃ k : Nat, i.readStepwise = (.ok (some t), j) ∧ t.finish.cursor = k ∧ c < k ∧ k ≤ text.length ∧
      j.AtCursor text k
  /-- Whatever the outcome, no read was made where no character was left. -/
  within : ∃ cs, i.Passes cs i.readStepwise.2
  /-- No reader makes such a read, as long as its opening fits what is ahead. -/
  readers : ∀ (o : Opening) d ds, i.ahead = d :: ds → o.fits d ds.head? → ∃ cs, i.Passes cs (o.reader i).2

theorem ahead_of_finished (h : i.readToken = .finished) : i.ahead = [] := by
  cases hl : Lexeme.first? i.ahead with
  | some l =>
    rw [readToken_of_first? hl] at h
    cases h
  | none =>
    rw [readToken_of_not_first? hl] at h
    cases hc : i.ahead.head? with
    | none => exact List.head?_eq_none_iff.1 hc
    | some c =>
      rw [hc] at h
      cases h

/-- **One read of a token** goes on, but never over the end. -/
theorem advances (h : i.AtCursor text c) : Advances text c i where
  stepwise := i.readStepwise_eq
  finished := by
    intro hc
    have hi : i.ahead = [] := by rw [h.ahead, List.drop_of_length_le hc]
    have hread : i.readToken = .finished := by rw [readToken, hi]
    rw [readStepwise_eq, hread]
    rfl
  advanced := by
    intro hc
    rw [readStepwise_eq]
    cases hread : i.readToken with
    | finished =>
      have hlength := congrArg List.length (h.ahead.symm.trans (ahead_of_finished hread))
      rw [List.length_drop, List.length_nil] at hlength
      omega
    | failed e => exact .inl ⟨e, rfl⟩
    | token t j =>
      obtain ⟨cs, hne, hp⟩ := passes_readToken hread
      have hlength := h.length_le hp
      have hpos := List.length_pos_iff.2 hne
      have hj := h.passes hp
      have hfinish : t.finish.cursor = (c + cs.length : Nat) := by
        rw [← hj.cursor, ← (readToken_position_text hread).1]
      exact .inr ⟨t, j, c + cs.length, rfl, hfinish, by omega, by omega, hj⟩
  within := by
    rw [readStepwise_eq]
    cases hread : i.readToken with
    | finished => exact ⟨[], i.passes_self⟩
    | failed e => exact ⟨[], i.passes_self⟩
    | token t j =>
      obtain ⟨cs, -, hp⟩ := passes_readToken hread
      exact ⟨cs, hp⟩
  readers := by
    intro o d ds hi hfits
    obtain ⟨more, hmore⟩ := Opening.spelling_lexeme_isPrefix hfits
    rw [reader_eq hi hfits]
    exact ⟨_, passes_skip (hi.trans hmore.symm)⟩

end Input

/-! ### Loops over tokens -/

/-- Tokens that are read one after the other take at least as many characters, all of which were ahead. -/
theorem Reads.passes {i j : Input} {read : List Token} (h : Reads i (read.map .token) j) :
    ∃ cs, i.Passes cs j ∧ read.length ≤ cs.length := by
  induction read generalizing i with
  | nil =>
    cases h
    exact ⟨[], passes_self _, Nat.le_refl 0⟩
  | cons t read ih =>
    cases h with
    | token hread hmore =>
      obtain ⟨cs, hne, hp⟩ := passes_readToken hread
      obtain ⟨ds, hp', hlength⟩ := ih hmore
      have hpos := List.length_pos_iff.2 hne
      refine ⟨cs ++ ds, hp.trans hp', ?_⟩
      rw [List.length_cons, List.length_append]
      omega

namespace TokenStream

/-- Looks at a token in a loop, which reads one token in each round until enough are kept. After the given number of
rounds the loop is given up. -/
def peekWithin (k : Nat) (rounds : Nat) (s : TokenStream) : Option (Except StreamError (Option Token) × TokenStream) :=
  if k < s.buffer.length then some (.ok s.buffer[k]?, s)
  else
    match rounds with
    | 0 => none
    | rounds + 1 =>
      match s.input.readToken with
      | .finished => some (.ok none, s)
      | .failed e => some (.error (.lex e), s)
      | .token t rest => peekWithin k rounds ⟨rest, s.buffer ++ [t]⟩

/-- Takes all tokens in a loop, which takes one in each round. After the given number of rounds the loop is given
up. -/
def allWithin (rounds : Nat) (s : TokenStream) : Option (Except StreamError (List Token) × TokenStream) :=
  match rounds with
  | 0 => none
  | rounds + 1 =>
    match s.next with
    | (.ok none, s') => some (.ok [], s')
    | (.error e, s') => some (.error e, s')
    | (.ok (some t), s') => (allWithin rounds s').map fun (found, last) => (found.map (t :: ·), last)

/-- What is left of a stream: the tokens kept, and the characters ahead. -/
def remaining (s : TokenStream) : Nat := s.buffer.length + s.input.ahead.length

/-- Taking a token leaves less. If there is none to take, none is kept, and everything stays as it was. -/
theorem next_cases (s : TokenStream) : (s.buffer = [] ∧ (s.next = (.ok none, s) ∨ ∃ e, s.next = (.error (.lex e), s))) ∨
    ∃ t s', s.next = (.ok (some t), s') ∧ s'.remaining < s.remaining := by
  obtain ⟨i, buffer⟩ := s
  cases buffer with
  | cons t rest =>
    refine .inr ⟨t, ⟨i, rest⟩, rfl, ?_⟩
    simp only [remaining, List.length_cons]
    omega
  | nil =>
    rw [next]
    cases hread : i.readToken with
    | finished => exact .inl ⟨rfl, .inl rfl⟩
    | failed e => exact .inl ⟨rfl, .inr ⟨e, rfl⟩⟩
    | token t j =>
      refine .inr ⟨t, ⟨j, []⟩, rfl, ?_⟩
      have := length_ahead_readToken hread
      simp only [remaining, List.length_nil]
      omega

/-- Looking at a token that is not kept is looking at it when the next one has been read. -/
theorem peek_of_token {s : TokenStream} {k : Nat} {t : Token} {rest : Input} (hk : s.buffer.length ≤ k)
    (hread : s.input.readToken = .token t rest) : s.peek (.ofNat k) = peek ⟨rest, s.buffer ++ [t]⟩ (.ofNat k) := by
  have hcount : k + 1 - s.buffer.length = k + 1 - (s.buffer ++ [t]).length + 1 := by
    rw [List.length_append, List.length_singleton]
    omega
  rw [peek, peek, hcount, fill, hread]

/-- **The loop of a look ahead ends** after at most as many reads as characters are ahead, and one that finds no
token. -/
theorem peekWithin_eq (k : Nat) {rounds : Nat} {s : TokenStream} (h : s.input.ahead.length < rounds) :
    s.peekWithin k rounds = some (s.peek (.ofNat k)) := by
  induction rounds generalizing s with
  | zero => omega
  | succ rounds ih =>
    rw [peekWithin]
    by_cases hk : k < s.buffer.length
    · rw [if_pos hk, peek, Nat.sub_eq_zero_of_le hk]
      rfl
    · have hcount : k + 1 - s.buffer.length = k - s.buffer.length + 1 := by omega
      rw [if_neg hk]
      cases hread : s.input.readToken with
      | finished =>
        rw [peek, hcount, fill, hread]
        simp only
        rw [List.getElem?_eq_none (by omega)]
      | failed e =>
        rw [peek, hcount, fill, hread]
      | token t rest =>
        have hless := length_ahead_readToken hread
        rw [peek_of_token (by omega) hread]
        exact ih (Nat.lt_of_lt_of_le hless (Nat.le_of_lt_succ h))

/-- **The loop over all tokens ends** after at most as many tokens as are kept and characters are ahead, and one
round that finds none. -/
theorem allWithin_eq {rounds : Nat} {s : TokenStream} (h : s.remaining < rounds) : s.allWithin rounds = some s.all := by
  induction rounds generalizing s with
  | zero => omega
  | succ rounds ih =>
    rw [allWithin]
    rcases s.next_cases with ⟨hbuffer, hnext | ⟨e, hnext⟩⟩ | ⟨t, s', hnext, hless⟩
    · rw [hnext, all_eq_of_drains (.finished hnext)]
      simp only [← hbuffer]
    · rw [hnext, all_eq_of_drains (.failed hnext)]
      simp only [← hbuffer]
    · rw [hnext, all_eq_of_drains (.token hnext s'.drains_drain)]
      simp only
      rw [ih (by omega), all]
      cases s'.input.drain.failure with
      | none => rfl
      | some e => rfl

end TokenStream

/-! ### Sessions -/

namespace Session

variable {s : Session} {k : Nat}

/-- Stepping a dead iterator does nothing, however often. -/
theorem run_step_of_dead (h : s.iterators[k]? ≠ some true) (n : Nat) :
    (s.run (List.replicate n (.step k))).2 = s := by
  have hstep : s.stepIterator k = (.ok none, s) := by
    rw [stepIterator]
    split
    · next hlive => exact absurd hlive h
    · rfl
  induction n with
  | zero => rfl
  | succ n ih =>
    rw [List.replicate_succ, run]
    simp only [perform, hstep]
    exact ih

/-- **An iterator that is stepped dies** after at most as many tokens as are kept and characters are ahead, and one
step that finds none. -/
theorem dead_of_run_step {n : Nat} (h : s.stream.remaining < n) :
    (s.run (List.replicate n (.step k))).2.iterators[k]? ≠ some true := by
  by_cases hlive : s.iterators[k]? = some true
  · induction n generalizing s with
    | zero => omega
    | succ n ih =>
      have hdead : (s.iterators.set k false)[k]? ≠ some true := by
        obtain ⟨hk, -⟩ := List.getElem?_eq_some_iff.1 hlive
        rw [List.getElem?_set_self hk]
        rintro ⟨⟩
      rw [List.replicate_succ, run]
      rcases s.stream.next_cases with ⟨-, hnext | ⟨e, hnext⟩⟩ | ⟨t, stream, hnext, hless⟩
      · simp only [perform, stepIterator, hlive, hnext]
        rw [run_step_of_dead hdead]
        exact hdead
      · simp only [perform, stepIterator, hlive, hnext]
        rw [run_step_of_dead hdead]
        exact hdead
      · simp only [perform, stepIterator, hlive, hnext]
        exact ih (Nat.lt_of_lt_of_le hless (Nat.le_of_lt_succ h)) hlive
  · rw [run_step_of_dead hlive]
    exact hlive

/-- `Halts text c s`: whatever is done next to the tokens of the session `s`, whose input is at the cursor `c` of a
text, comes to an end. -/
structure Halts (text : List Char) (c : Nat) (s : Session) : Prop where
  /-- What one action reads from the input are tokens, and these are made of characters that were ahead, each of at
  least one. So no more are read than characters were left, and none behind the end. -/
  reads : ∀ a : Action, ∃ read cs, Moves s.stream (a.taken s) read (s.perform a.command).2.stream ∧
    s.stream.input.Passes cs (s.perform a.command).2.stream.input ∧ read.length ≤ cs.length ∧
    cs.length ≤ text.length - c
  /-- A look ahead ends, however far it goes. -/
  peek : ∀ k rounds, text.length - c < rounds → s.stream.peekWithin k rounds = some (s.stream.peek (.ofNat k))
  /-- Taking all tokens ends. -/
  all : ∀ rounds, s.stream.buffer.length + (text.length - c) < rounds → s.stream.allWithin rounds = some s.stream.all
  /-- So does stepping an iterator until it is dead. -/
  iterate : ∀ k n, s.stream.buffer.length + (text.length - c) < n →
    (s.run (List.replicate n (.step k))).2.iterators[k]? ≠ some true

/-- **Every loop over tokens halts**, from whatever cursor. -/
theorem halts (h : s.stream.input.AtCursor text c) : Halts text c s := by
  have hlength : s.stream.input.ahead.length = text.length - c := by rw [h.ahead, List.length_drop]
  constructor
  case reads =>
    intro a
    obtain ⟨read, hmoves⟩ := s.moves_perform a
    obtain ⟨cs, hp, hle⟩ := hmoves.reads.passes
    exact ⟨read, cs, hmoves, hp, hle, h.length_le hp⟩
  case peek =>
    intro k rounds hrounds
    exact TokenStream.peekWithin_eq k (hlength ▸ hrounds)
  case all =>
    intro rounds hrounds
    exact TokenStream.allWithin_eq (by rw [TokenStream.remaining, hlength]; exact hrounds)
  case iterate =>
    intro k n hn
    exact dead_of_run_step (by rw [TokenStream.remaining, hlength]; exact hn)

end Session

/-- **Reading makes progress and never runs over the end.** Reading a token at any cursor of a source, also behind its
end, gives no token, or fails, and then leaves the input as it was, or it goes further and not behind the end. Going
from character to character, as the readers of the openings do, it never reads where no character is left. So in
whatever way a session on the source has been used, looking ahead, taking all tokens and stepping an iterator come to an
end, and read at most as many tokens as characters are left. -/
theorem reading_halts (source : String) :
    (∀ (c : Nat) (i : Input), i.AtCursor source.toList c → Advances source.toList c i) ∧
      ∀ commands, ∃ c, ((Session.ofSource source).run commands).2.stream.input.AtCursor source.toList c ∧
        Session.Halts source.toList c ((Session.ofSource source).run commands).2 := by
  refine ⟨fun c i h => advances h, fun commands => ?_⟩
  have hstart : (Session.ofSource source).stream.On source.toList :=
    ⟨on_ofText source.toList, List.forall_mem_nil _⟩
  have hcursor := (Session.on_run hstart commands).2.input.atCursor
  exact ⟨_, hcursor, Session.halts hcursor⟩

/-- Read from its second character on, this source has an unclosed comment; read on behind its end, it has nothing. -/
theorem reading_halts_unclosed :
    (((ofSource "a/*").skip 1).AtCursor "a/*".toList 1 ∧ Advances "a/*".toList 1 ((ofSource "a/*").skip 1)) ∧
      ((ofSource "a/*").skip 7).AtCursor "a/*".toList 7 ∧ Advances "a/*".toList 7 ((ofSource "a/*").skip 7) := by
  have hwithin : ((ofSource "a/*").skip 1).AtCursor "a/*".toList 1 := ⟨rfl, rfl⟩
  have hbehind : ((ofSource "a/*").skip 7).AtCursor "a/*".toList 7 := ⟨rfl, rfl⟩
  exact ⟨⟨hwithin, (reading_halts "a/*").1 1 _ hwithin⟩, hbehind, (reading_halts "a/*").1 7 _ hbehind⟩

end Stylesheet
