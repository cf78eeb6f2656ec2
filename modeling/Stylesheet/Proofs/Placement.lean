import Stylesheet.Proofs.Lookahead
import Stylesheet.Proofs.Place

/-!
# Every position of a session is decided by its cursor

Line and column are kept up to date by one operation, reading a character, while tokens of all
kinds, looks ahead and direct reads drive it, also behind the end of the text. Whatever is done,
the position that a session has reached, those of the tokens it gives or keeps, and those of its
errors all have the line and the column that belong to their cursor (`Placed`).

`Input.On` is the invariant of an input: the number of reads decides what is still ahead and
where the input is. A token begins and ends where its input is, so every operation of a stream
keeps its tokens placed (`TokenStream.On`) and answers with placed positions (`Told`). Main
statement: `run_placed`.
-/

namespace Stylesheet

open Input Lexeme

variable {text : List Char}

/-! ### Inputs -/

/-- `On text i`: the input `i` is on `text`, as far as the number of its reads says. -/
structure Input.On (text : List Char) (i : Input) : Prop where
  /-- What was read is no longer ahead. -/
  ahead : i.ahead = text.drop i.reads.length
  /-- Every read has moved the position, also those behind the end. -/
  position : i.position = placeAt text i.reads.length

theorem Input.on_ofText (text : List Char) : (ofText text).On text := ⟨rfl, rfl⟩

theorem Input.On.placed {i : Input} (h : i.On text) : Placed text i.position :=
  placed_iff.2 ⟨_, h.position⟩

theorem Input.On.next {i : Input} (h : i.On text) : i.next.2.On text := by
  constructor
  · rw [ahead_next, h.ahead, List.tail_drop]
    rfl
  · -- what is read is the character at the index of the read, or nothing behind the end
    have hread : i.ahead.head? = text[i.reads.length]? := by rw [h.ahead, List.head?_drop]
    have hnext : i.next.2.position = i.position.step i.ahead.head? := rfl
    rw [hnext, h.position, hread, ← placeAt_succ]
    rfl

theorem Input.On.skip {i : Input} (h : i.On text) (n : Nat) : (i.skip n).On text := by
  induction n generalizing i with
  | zero => exact h
  | succ n ih => exact ih h.next

theorem Input.length_reads_skip (i : Input) (n : Nat) : (i.skip n).reads.length = i.reads.length + n := by
  induction n generalizing i with
  | zero => rfl
  | succ n ih =>
    have hnext : i.next.2.reads.length = i.reads.length + 1 := rfl
    rw [Input.skip, ih, hnext]
    omega

/-- An input that is only read directly is where the number of reads says. -/
theorem Input.position_skip_ofSource (source : String) (n : Nat) :
    ((ofSource source).skip n).position = placeAt source.toList n := by
  have h := ((on_ofText source.toList).skip n).position
  rw [length_reads_skip] at h
  exact h.trans (congrArg (placeAt source.toList) (Nat.zero_add n))

/-! ### Tokens and errors -/

/-- `t.PlacedIn text`: both ends of `t` are positions of `text`. -/
structure Token.PlacedIn (text : List Char) (t : Token) : Prop where
  start : Placed text t.start
  finish : Placed text t.finish

/-- `e.PlacedIn text`: the error is at a position of `text`. -/
structure LexError.PlacedIn (text : List Char) (e : LexError) : Prop where
  position : ∀ p ∈ e.position, Placed text p
  /-- It is nowhere only if a token was wanted and there was none. -/
  missing : e.position = none → ∃ wanted : Expectation, e.fault = wanted.fault none

theorem LexError.placedIn_of_position {e : LexError} {p : Position} (he : e.position = some p) (hp : Placed text p) :
    e.PlacedIn text := by
  constructor
  · intro q hq
    rw [he] at hq
    cases hq
    exact hp
  · intro hnone
    rw [he] at hnone
    cases hnone

/-- `d.PlacedIn text`: the tokens of `d` and the error that stopped reading are placed. -/
structure Input.Drained.PlacedIn (text : List Char) (d : Drained) : Prop where
  tokens : ∀ t ∈ d.tokens, t.PlacedIn text
  failure : ∀ e ∈ d.failure, e.PlacedIn text
  rest : d.rest.On text

/-- A token begins where its input is and ends where it then is. -/
theorem Input.On.readToken {i j : Input} {t : Token} (h : i.On text) (hread : i.readToken = .token t j) :
    t.PlacedIn text ∧ j.On text := by
  obtain ⟨hfinish, -⟩ := Lookahead.readToken_position_text hread
  obtain ⟨l, -, rfl, rfl⟩ := readToken_eq_token hread
  have hj := h.skip l.spelling.length
  exact ⟨⟨h.placed, hfinish ▸ hj.placed⟩, hj⟩

theorem Input.On.failed {i : Input} {e : LexError} (h : i.On text) (hread : i.readToken = .failed e) :
    e.PlacedIn text := by
  obtain ⟨c, -, rfl⟩ := readToken_eq_failed hread
  exact LexError.placedIn_of_position rfl h.placed

theorem Input.On.drain {i : Input} (h : i.On text) : i.drain.PlacedIn text := by
  fun_induction Input.drain i with
  | case1 i _ =>
    refine ⟨List.forall_mem_nil _, ?_, h⟩
    rintro _ ⟨⟩
  | case2 i e hread =>
    refine ⟨List.forall_mem_nil _, ?_, h⟩
    rintro _ ⟨⟩
    exact h.failed hread
  | case3 i t j hread _ more ih =>
    obtain ⟨ht, hj⟩ := h.readToken hread
    obtain ⟨htokens, hfailure, hrest⟩ := ih hj
    exact ⟨List.forall_mem_cons.2 ⟨ht, htokens⟩, hfailure, hrest⟩

/-! ### Answers -/

/-- `Told text held answer`: the tokens that an answer holds, or its error, are placed. -/
def Told {α : Type} (text : List Char) (held : α → List Token) : Except StreamError α → Prop
  | .ok a => ∀ t ∈ held a, t.PlacedIn text
  | .error (.lex e) => e.PlacedIn text
  | .error .negativeOffset => True

/-- An answer that is made of another one tells no more if it holds no other token. -/
theorem Told.map {α β : Type} {held : α → List Token} {held' : β → List Token} {answer : Except StreamError α}
    (h : Told text held answer) {f : α → β} (hf : ∀ a, held' (f a) ⊆ held a) : Told text held' (answer.map f) := by
  cases answer with
  | ok a =>
    intro t ht
    exact h t (hf a ht)
  | error e => cases e <;> exact h

/-! ### Streams -/

/-- `On text s`: the input of the stream `s` is on `text`, and the tokens it keeps are placed. -/
structure TokenStream.On (text : List Char) (s : TokenStream) : Prop where
  input : s.input.On text
  buffer : ∀ t ∈ s.buffer, t.PlacedIn text

namespace TokenStream.On

variable {s : TokenStream}

/-- Filling the buffer keeps it placed, also where it fails with part of it filled. -/
theorem fill (h : s.On text) (k : Nat) : Told text (fun _ => []) ((s.fill k).1.mapError .lex) ∧ (s.fill k).2.On text := by
  fun_induction TokenStream.fill k s with
  | case1 s => exact ⟨List.forall_mem_nil _, h⟩
  | case2 s n hread => exact ⟨List.forall_mem_nil _, h⟩
  | case3 s n e hread => exact ⟨h.input.failed hread, h⟩
  | case4 s n t rest hread ih =>
    obtain ⟨ht, hrest⟩ := h.input.readToken hread
    exact ih ⟨hrest, List.forall_mem_append.2 ⟨h.buffer, List.forall_mem_singleton.2 ht⟩⟩

theorem peek (h : s.On text) (offset : Int) : Told text Option.toList (s.peek offset).1 ∧ (s.peek offset).2.On text := by
  cases offset with
  | negSucc k => exact ⟨trivial, h⟩
  | ofNat k =>
    obtain ⟨htold, hs⟩ := h.fill (k + 1 - s.buffer.length)
    rw [TokenStream.peek]
    split
    · next s' hfill =>
      rw [hfill] at hs
      refine ⟨?_, hs⟩
      -- the token looked at is one of those now kept
      intro t ht
      exact hs.buffer t (List.mem_of_getElem? (Option.mem_toList.1 ht))
    · next e s' hfill =>
      rw [hfill] at htold hs
      exact ⟨htold, hs⟩

theorem next (h : s.On text) : Told text Option.toList s.next.1 ∧ s.next.2.On text := by
  obtain ⟨i, buffer⟩ := s
  cases buffer with
  | cons t rest =>
    obtain ⟨ht, hrest⟩ := List.forall_mem_cons.1 h.buffer
    exact ⟨List.forall_mem_singleton.2 ht, h.input, hrest⟩
  | nil =>
    rw [TokenStream.next]
    cases hread : i.readToken with
    | finished => exact ⟨List.forall_mem_nil _, h⟩
    | failed e => exact ⟨h.input.failed hread, h⟩
    | token t j =>
      obtain ⟨ht, hj⟩ := h.input.readToken hread
      exact ⟨List.forall_mem_singleton.2 ht, hj, List.forall_mem_nil _⟩

theorem all (h : s.On text) : Told text id s.all.1 ∧ s.all.2.On text := by
  obtain ⟨htokens, hfailure, hrest⟩ := h.input.drain
  rw [TokenStream.all]
  cases hf : s.input.drain.failure with
  | none => exact ⟨List.forall_mem_append.2 ⟨h.buffer, htokens⟩, hrest, List.forall_mem_nil _⟩
  | some e => exact ⟨hfailure e hf, hrest, List.forall_mem_nil _⟩

end TokenStream.On

/-! ### Sessions -/

namespace Session

/-- The tokens that a reply holds. -/
def Reply.held : Reply → List Token
  | .token t => t.toList
  | .tokens ts => ts
  | _ => []

variable {s : Session}

theorem on_subject (h : s.stream.On text) (offset : Option Int) :
    Told text Option.toList (subject s.stream offset).1 ∧ (subject s.stream offset).2.On text := by
  cases offset with
  | none => exact h.next
  | some offset => exact h.peek offset

theorem on_stepIterator (h : s.stream.On text) (k : Nat) :
    Told text Option.toList (s.stepIterator k).1 ∧ (s.stepIterator k).2.stream.On text := by
  obtain ⟨htold, hs⟩ := h.next
  rw [stepIterator]
  split
  · split
    · next t stream hnext => rw [hnext] at htold hs; exact ⟨htold, hs⟩
    · next found stream hnext => rw [hnext] at htold hs; exact ⟨htold, hs⟩
  · exact ⟨List.forall_mem_nil _, h⟩

/-- What is wanted of a token is refused at the token, or nowhere if there is none. -/
theorem told_require {found : Except StreamError (Option Token)} (h : Told text Option.toList found)
    (wanted : Expectation) :
    Told text Reply.held (found.bind fun t =>
      match wanted.require t with
      | .ok u => .ok (Reply.token (some u))
      | .error e => .error (.lex e)) := by
  cases found with
  | error e => cases e <;> exact h
  | ok found =>
    cases found with
    | none => exact ⟨nofun, fun _ => ⟨wanted, rfl⟩⟩
    | some t =>
      have ht : t.PlacedIn text := h t (Option.mem_toList.2 rfl)
      simp only [Except.bind, Expectation.require]
      split
      · next u hu =>
        split at hu
        · cases hu; exact List.forall_mem_singleton.2 ht
        · cases hu
      · next e he =>
        split at he
        · cases he
        · cases he
          exact LexError.placedIn_of_position rfl ht.start

/-- **One command** is answered with placed positions, and leaves everything placed. -/
theorem on_perform (h : s.stream.On text) (c : Command) :
    Told text Reply.held (s.perform c).1 ∧ (s.perform c).2.stream.On text := by
  cases c with
  | peek offset =>
    obtain ⟨htold, hs⟩ := h.peek offset
    exact ⟨htold.map fun _ => List.Subset.refl _, hs⟩
  | next =>
    obtain ⟨htold, hs⟩ := h.next
    exact ⟨htold.map fun _ => List.Subset.refl _, hs⟩
  | atEnd =>
    obtain ⟨htold, hs⟩ := h.peek 0
    have hflag : Told text (fun _ => []) s.stream.atEnd.1 := htold.map fun _ => List.nil_subset _
    exact ⟨hflag.map fun _ => List.Subset.refl _, hs⟩
  | all =>
    obtain ⟨htold, hs⟩ := h.all
    exact ⟨htold.map fun _ => List.Subset.refl _, hs⟩
  | report message => exact ⟨LexError.placedIn_of_position rfl h.input.placed, h⟩
  | iterate => exact ⟨List.forall_mem_nil _, h⟩
  | step k =>
    obtain ⟨htold, hs⟩ := on_stepIterator h k
    exact ⟨htold.map fun _ => List.Subset.refl _, hs⟩
  | test wanted offset =>
    obtain ⟨htold, hs⟩ := on_subject h offset
    exact ⟨htold.map fun _ => List.nil_subset _, hs⟩
  | require wanted offset =>
    obtain ⟨htold, hs⟩ := on_subject h offset
    exact ⟨told_require htold wanted, hs⟩
  | inputNext => exact ⟨List.forall_mem_nil _, h.input.next, h.buffer⟩
  | inputAtEnd => exact ⟨List.forall_mem_nil _, h⟩
  | inputPeek offset => exact ⟨List.forall_mem_nil _, h⟩

/-- **A run of commands** keeps everything placed. -/
theorem on_run (h : s.stream.On text) (cs : List Command) :
    (∀ a ∈ (s.run cs).1, Told text Reply.held a.1 ∧ Placed text a.2) ∧ (s.run cs).2.stream.On text := by
  induction cs generalizing s with
  | nil => exact ⟨List.forall_mem_nil _, h⟩
  | cons c cs ih =>
    obtain ⟨htold, hs⟩ := on_perform h c
    obtain ⟨hmore, hlast⟩ := ih hs
    exact ⟨List.forall_mem_cons.2 ⟨⟨htold, hs.input.placed⟩, hmore⟩, hlast⟩

/-- **Positions are a function of the cursor.** An input on a source that is only read directly is
at the position that belongs to the number of reads, and reports errors there. Whatever is done in
a session on the source, every answer tells placed tokens or a placed error, the position after
each command is placed, and so are the tokens that the session then keeps, those still to be read,
and the error that reading them would meet. Placed positions are in the same order by cursor as by
line and column. -/
theorem run_placed (source : String) (cs : List Command) :
    (∀ n fault, ((Input.ofSource source).skip n).position = placeAt source.toList n ∧
        (((Input.ofSource source).skip n).errorAt fault).position = some (placeAt source.toList n)) ∧
      (∀ a ∈ ((ofSource source).run cs).1, Told source.toList Reply.held a.1 ∧ Placed source.toList a.2) ∧
      (∀ t ∈ ((ofSource source).run cs).2.stream.buffer, t.PlacedIn source.toList) ∧
      Placed source.toList ((ofSource source).run cs).2.stream.input.position ∧
      ((ofSource source).run cs).2.stream.input.drain.PlacedIn source.toList ∧
      ∀ p q, Placed source.toList p → Placed source.toList q →
        (p.cursor < q.cursor ↔ p.line < q.line ∨ p.line = q.line ∧ p.column < q.column) := by
  have hstart : (ofSource source).stream.On source.toList := ⟨on_ofText source.toList, List.forall_mem_nil _⟩
  obtain ⟨htold, hlast⟩ := on_run hstart cs
  refine ⟨?_, htold, hlast.buffer, hlast.input.placed, hlast.input.drain, fun p q hp hq => hp.cursor_lt_iff hq⟩
  intro n fault
  exact ⟨position_skip_ofSource source n, congrArg some (position_skip_ofSource source n)⟩

end Session

end Stylesheet
