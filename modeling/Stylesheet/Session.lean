import Stylesheet.Expectation
import Stylesheet.TokenStream

/-!
# Sessions

A session is one token stream with everything that may be done to it: looking ahead, taking
tokens, stepping iterators over it, checking tokens, and reading its input directly. An
iterator holds no token of its own. It is alive until it meets the end or an error, and from
then on it gives nothing, even if the stream has more.
-/

namespace Stylesheet

/-- A token stream and the iterators over it. -/
structure Session where
  /-- The stream they all share. -/
  stream : TokenStream
  /-- Whether each iterator is alive, the newest first. -/
  iterators : List Bool
  deriving DecidableEq, Repr

namespace Session

/-- What may be done in a session. -/
inductive Command where
  /-- Look at the token at an offset. -/
  | peek (offset : Int)
  /-- Take the next token. -/
  | next
  /-- Ask whether no token is left. -/
  | atEnd
  /-- Take all tokens. -/
  | all
  /-- Report an error at the place the input has reached. -/
  | report (message : String)
  /-- Make a new iterator. -/
  | iterate
  /-- Step an iterator; the newest has number 0. -/
  | step (iterator : Nat)
  /-- Test the token at an offset, or the next one, which is then taken. -/
  | test (wanted : Expectation) (offset : Option Int)
  /-- Require the token at an offset, or the next one, which is then taken. -/
  | require (wanted : Expectation) (offset : Option Int)
  /-- Read one character of the input. -/
  | inputNext
  /-- Ask whether the input has no character left. -/
  | inputAtEnd
  /-- Look at a character of the input. -/
  | inputPeek (offset : Int)
  deriving DecidableEq, Repr

/-- The answer to a command. -/
inductive Reply where
  /-- Done, with nothing to tell. -/
  | nothing
  /-- A token, if there is one. -/
  | token (t : Option Token)
  /-- A list of tokens. -/
  | tokens (ts : List Token)
  /-- Yes or no. -/
  | flag (b : Bool)
  /-- A character, if there is one. -/
  | character (c : Option Char)
  deriving DecidableEq, Repr

/-- A session on a source, with one iterator. -/
def ofSource (source : String) : Session := ⟨.ofSource source, [true]⟩

/-- The token a check is about: looked at if an offset is given, else taken. -/
def subject (s : TokenStream) : Option Int → Except StreamError (Option Token) × TokenStream
  | some offset => s.peek offset
  | none => s.next

/-- Steps an iterator. Meeting the end or an error, it dies; dead, it leaves the stream
alone. -/
def stepIterator (s : Session) (k : Nat) : Except StreamError (Option Token) × Session :=
  match s.iterators[k]? with
  | some true =>
    match s.stream.next with
    | (.ok (some t), stream) => (.ok (some t), ⟨stream, s.iterators⟩)
    | (found, stream) => (found, ⟨stream, s.iterators.set k false⟩)
  | _ => (.ok none, s)

/-- Carries out one command. -/
def perform (s : Session) : Command → Except StreamError Reply × Session
  | .peek offset =>
    let (found, stream) := s.stream.peek offset
    (found.map .token, ⟨stream, s.iterators⟩)
  | .next =>
    let (found, stream) := s.stream.next
    (found.map .token, ⟨stream, s.iterators⟩)
  | .atEnd =>
    let (found, stream) := s.stream.atEnd
    (found.map .flag, ⟨stream, s.iterators⟩)
  | .all =>
    let (found, stream) := s.stream.all
    (found.map .tokens, ⟨stream, s.iterators⟩)
  | .report message => (.error (.lex (s.stream.errorAt message)), s)
  | .iterate => (.ok .nothing, ⟨s.stream, true :: s.iterators⟩)
  | .step k =>
    let (found, s') := s.stepIterator k
    (found.map .token, s')
  | .test wanted offset =>
    let (found, stream) := subject s.stream offset
    (found.map (fun t => .flag (wanted.test t)), ⟨stream, s.iterators⟩)
  | .require wanted offset =>
    let (found, stream) := subject s.stream offset
    let checked := found.bind fun t =>
      match wanted.require t with
      | .ok u => .ok (Reply.token (some u))
      | .error e => .error (.lex e)
    (checked, ⟨stream, s.iterators⟩)
  | .inputNext =>
    let (c, input) := s.stream.input.next
    (.ok (.character c), ⟨⟨input, s.stream.buffer⟩, s.iterators⟩)
  | .inputAtEnd => (.ok (.flag s.stream.input.atEnd), s)
  | .inputPeek offset => (.ok (.character (s.stream.input.peek offset)), s)

/-- Carries out commands one after the other, failed ones included, and notes with each answer
the position that the input has reached. -/
def run (s : Session) : List Command → List (Except StreamError Reply × Position) × Session
  | [] => ([], s)
  | c :: cs =>
    let (answer, s') := s.perform c
    let (answers, last) := s'.run cs
    ((answer, s'.stream.input.position) :: answers, last)

end Session

end Stylesheet
