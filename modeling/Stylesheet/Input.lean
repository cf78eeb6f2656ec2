import Stylesheet.Lexeme
import Stylesheet.LexError

/-!
# Reading a text character by character and token by token

An input is a text with a reading place in it. What was read lies on one side, what is still
to come on the other, so that looking ahead and looking back need no index. Reading past the
end gives nothing and still moves the place.

A token is read by finding the lexeme the remaining text begins with and reading as many
characters as it is long. A failed read leaves the input where it was.

Main statement: reading a token makes the remaining text shorter (`length_ahead_readToken`),
so draining an input comes to an end.
-/

namespace Stylesheet

/-- A text and a reading place in it. -/
structure Input where
  /-- What each read so far gave, the latest first; a read past the end gave nothing. -/
  reads : List (Option Char)
  /-- The text that is still to be read. -/
  ahead : List Char
  /-- The position reached. -/
  position : Position
  deriving DecidableEq, Repr

namespace Input

/-! ### Characters -/

/-- An input at the beginning of a text. -/
def ofText (text : List Char) : Input := ⟨[], text, .start⟩

/-- An input at the beginning of a source. -/
def ofSource (source : String) : Input := ofText source.toList

/-- The whole text, read and unread. -/
def text (i : Input) : List Char := i.reads.reverse.filterMap id ++ i.ahead

/-- The character at an offset from the reading place; a negative offset looks back. Outside
the text there is none. -/
def peek (i : Input) : Int → Option Char
  | .ofNat k => i.ahead[k]?
  | .negSucc k => i.reads[k]?.join

/-- Whether nothing is left to read. -/
def atEnd (i : Input) : Bool := i.ahead.isEmpty

/-- Reads one character. At the end there is none to read, and the place moves on all the
same. -/
def next (i : Input) : Option Char × Input :=
  (i.ahead.head?, ⟨i.ahead.head? :: i.reads, i.ahead.tail, i.position.step i.ahead.head?⟩)

/-- Reads a number of characters. -/
def skip : Nat → Input → Input
  | 0, i => i
  | n + 1, i => skip n i.next.2

/-- An error at the reading place. -/
def errorAt (i : Input) (fault : Fault) : LexError :=
  ⟨fault, some i.position, some (String.ofList i.text)⟩

@[simp] theorem ahead_next (i : Input) : i.next.2.ahead = i.ahead.tail := rfl

@[simp] theorem ahead_skip (n : Nat) (i : Input) : (i.skip n).ahead = i.ahead.drop n := by
  induction n generalizing i with
  | zero => rfl
  | succ n ih => simp [skip, ih]

@[simp] theorem text_ofText (text : List Char) : (ofText text).text = text := rfl

/-- Reading does not change the text. -/
@[simp] theorem text_next (i : Input) : i.next.2.text = i.text := by
  obtain ⟨reads, ahead, position⟩ := i
  cases ahead <;> simp [next, text]

@[simp] theorem text_skip (n : Nat) (i : Input) : (i.skip n).text = i.text := by
  induction n generalizing i with
  | zero => rfl
  | succ n ih => simp [skip, ih]

/-! ### Tokens -/

/-- The outcome of reading one token. -/
inductive Read where
  /-- There was nothing left. -/
  | finished
  /-- A token, and the input after it. -/
  | token (t : Token) (rest : Input)
  /-- The next character opens no lexeme; the input stays where it was. -/
  | failed (e : LexError)
  deriving DecidableEq, Repr

/-- Reads one token. -/
def readToken (i : Input) : Read :=
  match i.ahead with
  | [] => .finished
  | c :: _ =>
    match Lexeme.first? i.ahead with
    | some l => .token (l.toToken i.position) (i.skip l.spelling.length)
    | none => .failed (i.errorAt (.unhandled c))

/-- A token takes at least one character. -/
theorem length_ahead_readToken {i j : Input} {t : Token} (h : i.readToken = .token t j) :
    j.ahead.length < i.ahead.length := by
  unfold readToken at h
  split at h
  · cases h
  · next c cs hi =>
    split at h
    · next l hl =>
      cases h
      have := List.length_pos_iff.2 (Lexeme.spelling_ne_nil hl)
      simp only [ahead_skip, List.length_drop, hi, List.length_cons]
      omega
    · cases h

/-- All that reading to the end gives: the tokens, the error that stopped it if one did, and
the input where it stopped. -/
structure Drained where
  /-- The tokens read, in order. -/
  tokens : List Token
  /-- The error that stopped reading before the end. -/
  failure : Option LexError
  /-- The input after the last token. -/
  rest : Input
  deriving DecidableEq, Repr

/-- Reads tokens until nothing is left or a character opens no lexeme. -/
def drain (i : Input) : Drained :=
  match h : i.readToken with
  | .finished => ⟨[], none, i⟩
  | .failed e => ⟨[], some e, i⟩
  | .token t j =>
    have := length_ahead_readToken h
    let more := j.drain
    ⟨t :: more.tokens, more.failure, more.rest⟩
termination_by i.ahead.length

end Input

/-! ### Whole sources -/

/-- The tokens of a source up to the first error, and that error. -/
def tokenize (source : String) : Input.Drained := (Input.ofSource source).drain

/-- All tokens of a source, or the error that its first unreadable character makes. -/
def tokens (source : String) : Except LexError (List Token) :=
  let drained := tokenize source
  match drained.failure with
  | none => .ok drained.tokens
  | some e => .error e

end Stylesheet
