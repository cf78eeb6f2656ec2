import Stylesheet.Proofs.Lookahead

/-!
# After a failure

A token stream that fails to read a token does not go past the character at fault. It is stuck there
(`TokenStream.Stuck`): the tokens it keeps can still be looked at and taken, but whatever needs
another one fails again, with the same error. Only a direct read of the input leads further.

One lemma says what each operation leaves behind when it fails, and one that each operation leaves a
stuck stream stuck. For a session this gives `stuck_of_perform`, `stuck_run` and `error_of_beyond`.
-/

namespace Stylesheet

open Input Lookahead

namespace TokenStream

/-! ### Streams -/

theorem snd_peek_ofNat (s : TokenStream) (k : Nat) :
    (s.peek (.ofNat k)).2 = (s.fill (k + 1 - s.buffer.length)).2 := by
  rw [peek]
  split
  · next hfill => rw [hfill]
  · next hfill => rw [hfill]

theorem snd_all (s : TokenStream) : s.all.2 = ⟨s.input.drain.rest, []⟩ := by
  rw [all]
  cases s.input.drain.failure <;> rfl

/-- `Stuck e s`: the next character of the input is at fault, and `e` is the error. -/
def Stuck (e : LexError) (s : TokenStream) : Prop := s.input.readToken = .failed e

/-- The error of a stream that is stuck names the next character, at the place of the input. -/
theorem Stuck.at_fault {e : LexError} {s : TokenStream} (h : s.Stuck e) :
    ∃ c, e.fault = .unhandled c ∧ s.input.peek 0 = some c ∧ e.position = some s.input.position := by
  obtain ⟨c, hc, rfl⟩ := readToken_eq_failed h
  refine ⟨c, rfl, ?_, rfl⟩
  rw [← hc, List.head?_eq_getElem?]
  rfl

theorem stuck_of_fill {k : Nat} {s s' : TokenStream} {e : LexError} (h : s.fill k = (.error e, s')) : s'.Stuck e := by
  fun_induction TokenStream.fill k s with
  | case1 s => cases h
  | case2 _ s _ => cases h
  | case3 _ s e' hread =>
    cases h
    exact hread
  | case4 _ s t rest hread ih => exact ih h

theorem stuck_of_peek {s : TokenStream} {offset : Int} {e : LexError} (h : (s.peek offset).1 = .error (.lex e)) :
    (s.peek offset).2.Stuck e := by
  cases offset with
  | negSucc k => cases h
  | ofNat k =>
    rw [peek] at h ⊢
    split at h
    · cases h
    · next hfill =>
      cases h
      exact stuck_of_fill hfill

theorem stuck_of_next {s : TokenStream} {e : LexError} (h : s.next.1 = .error (.lex e)) : s.next.2.Stuck e := by
  obtain ⟨i, buffer⟩ := s
  cases buffer with
  | cons t rest => cases h
  | nil =>
    rw [next] at h ⊢
    cases hread : i.readToken with
    | finished => rw [hread] at h; cases h
    | token t j => rw [hread] at h; cases h
    | failed e' =>
      rw [hread] at h
      cases h
      exact hread

theorem stuck_of_drain {i : Input} {e : LexError} (h : i.drain.failure = some e) : i.drain.rest.readToken = .failed e := by
  fun_induction Input.drain i with
  | case1 i _ => cases h
  | case2 i e' hread =>
    cases h
    exact hread
  | case3 i t j _ _ more ih => exact ih h

theorem stuck_of_all {s : TokenStream} {e : LexError} (h : s.all.1 = .error (.lex e)) : s.all.2.Stuck e := by
  rw [snd_all]
  rw [all] at h
  cases hf : s.input.drain.failure with
  | none => rw [hf] at h; cases h
  | some e' =>
    rw [hf] at h
    cases h
    exact stuck_of_drain hf

/-- A stream that is stuck reads nothing. -/
theorem Stuck.fill {s : TokenStream} {e : LexError} (h : s.Stuck e) (k : Nat) :
    s.fill k = (if k = 0 then .ok () else .error e, s) := by
  cases k with
  | zero => rfl
  | succ k =>
    have hread : s.input.readToken = .failed e := h
    rw [TokenStream.fill, hread]
    rfl

theorem Stuck.peek {s : TokenStream} {e : LexError} (h : s.Stuck e) (offset : Int) : (s.peek offset).2 = s := by
  cases offset with
  | negSucc k => rfl
  | ofNat k => rw [snd_peek_ofNat, h.fill]

theorem Stuck.peek_beyond {s : TokenStream} {e : LexError} (h : s.Stuck e) {k : Nat} (hk : s.buffer.length ≤ k) :
    (s.peek (.ofNat k)).1 = .error (.lex e) := by
  rw [TokenStream.peek, h.fill, if_neg (by omega)]

theorem Stuck.next {s : TokenStream} {e : LexError} (h : s.Stuck e) : s.next.2.Stuck e := by
  obtain ⟨i, buffer⟩ := s
  have hread : i.readToken = .failed e := h
  cases buffer with
  | cons t rest => exact hread
  | nil =>
    rw [TokenStream.next]
    simp only
    rw [hread]
    exact hread

theorem Stuck.next_beyond {s : TokenStream} {e : LexError} (h : s.Stuck e) (hempty : s.buffer = []) :
    s.next.1 = .error (.lex e) := by
  have hread : s.input.readToken = .failed e := h
  rw [TokenStream.next, hempty]
  simp only
  rw [hread]

theorem Stuck.all {s : TokenStream} {e : LexError} (h : s.Stuck e) :
    s.all = (.error (.lex e), ⟨s.input, []⟩) := by
  rw [TokenStream.all, drain_of_failed h]

end TokenStream

/-! ### Sessions -/

/-- Whether an action needs a token that is not kept in the stream. -/
def Lookahead.Action.Beyond (s : Session) : Action → Prop
  | .peek (.ofNat k) => s.stream.buffer.length ≤ k
  | .peek (.negSucc _) => False
  | .next => s.stream.buffer = []
  | .atEnd => s.stream.buffer = []
  | .all => True
  | .report _ => False
  | .iterate => False
  | .step k => s.iterators[k]? = some true ∧ s.stream.buffer = []

namespace Session

variable {s : Session}

theorem eq_error_of_map {α β : Type} {f : α → β} {found : Except StreamError α} {e : StreamError}
    (h : found.map f = .error e) : found = .error e := by
  cases found with
  | ok a => cases h
  | error e' =>
    cases h
    rfl

theorem stuck_of_stepIterator {k : Nat} {e : LexError} (h : (s.stepIterator k).1 = .error (.lex e)) :
    (s.stepIterator k).2.stream.Stuck e := by
  rw [stepIterator] at h ⊢
  split at h
  · split at h
    · cases h
    · next found stream _ hnext =>
      have hstuck := TokenStream.stuck_of_next (show s.stream.next.1 = .error (.lex e) by rw [hnext]; exact h)
      rw [hnext] at hstuck
      exact hstuck
  · cases h

/-- **A failed action leaves the input at the character at fault.** -/
theorem stuck_of_perform {a : Action} {e : LexError} (ha : ∀ message, a ≠ .report message)
    (h : (s.perform a.command).1 = .error (.lex e)) : (s.perform a.command).2.stream.Stuck e := by
  cases a with
  | peek offset => exact TokenStream.stuck_of_peek (eq_error_of_map h)
  | next => exact TokenStream.stuck_of_next (eq_error_of_map h)
  | atEnd =>
    have hend : s.stream.atEnd.1 = .error (.lex e) := eq_error_of_map h
    have hpeek : (s.stream.peek 0).1 = .error (.lex e) := eq_error_of_map hend
    exact TokenStream.stuck_of_peek hpeek
  | all => exact TokenStream.stuck_of_all (eq_error_of_map h)
  | report message => exact absurd rfl (ha message)
  | iterate => cases h
  | step k => exact stuck_of_stepIterator (eq_error_of_map h)

theorem stuck_stepIterator {e : LexError} (h : s.stream.Stuck e) (k : Nat) :
    (s.stepIterator k).2.stream.Stuck e := by
  have hnext := h.next
  rw [stepIterator]
  split
  · split
    · next t stream heq => rw [heq] at hnext; exact hnext
    · next found stream _ heq => rw [heq] at hnext; exact hnext
  · exact h

/-- No action on the tokens moves an input that is stuck. -/
theorem stuck_perform {e : LexError} (h : s.stream.Stuck e) (a : Action) :
    (s.perform a.command).2.stream.Stuck e := by
  have hpeek : ∀ offset, (s.stream.peek offset).2.Stuck e := by
    intro offset
    rw [h.peek]
    exact h
  cases a with
  | peek offset => exact hpeek offset
  | next => exact h.next
  | atEnd => exact hpeek 0
  | all =>
    simp only [Action.command, perform, h.all]
    exact h
  | report message => exact h
  | iterate => exact h
  | step k => exact stuck_stepIterator h k

theorem stuck_run {e : LexError} (h : s.stream.Stuck e) (as : List Action) :
    (s.run (as.map Action.command)).2.stream.Stuck e := by
  induction as generalizing s with
  | nil => exact h
  | cons a as ih => exact ih (stuck_perform h a)

/-- What needs another token than those kept fails again, with the same error. -/
theorem error_of_beyond {e : LexError} (h : s.stream.Stuck e) {a : Action} (ha : a.Beyond s) :
    (s.perform a.command).1 = .error (.lex e) := by
  cases a with
  | peek offset =>
    cases offset with
    | ofNat k =>
      simp only [Action.command, perform, h.peek_beyond ha]
      rfl
    | negSucc k => exact ha.elim
  | next =>
    simp only [Action.command, perform, h.next_beyond ha]
    rfl
  | atEnd =>
    have hpeek : (s.stream.peek 0).1 = .error (.lex e) := h.peek_beyond (Nat.le_of_eq (List.length_eq_zero_iff.2 ha))
    simp only [Action.command, perform, TokenStream.atEnd, hpeek]
    rfl
  | all =>
    simp only [Action.command, perform, h.all]
    rfl
  | report message => exact ha.elim
  | iterate => exact ha.elim
  | step k =>
    obtain ⟨hlive, hempty⟩ := ha
    have hnext := h.next_beyond hempty
    simp only [Action.command, perform, stepIterator, hlive]
    split
    · next t stream heq => rw [heq] at hnext; cases hnext
    · next found stream _ heq =>
      rw [heq] at hnext
      rw [show found = .error (.lex e) from hnext]
      rfl

end Session

end Stylesheet
