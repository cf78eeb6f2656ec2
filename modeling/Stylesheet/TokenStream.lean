import Stylesheet.Input

/-!
# Token streams

A token stream reads the tokens of an input when they are asked for. Looking ahead reads as
many tokens as it needs and keeps them; taking a token uses up the kept ones first. Every
operation returns the stream after it, also when it fails: tokens that were kept before a
failure stay kept, and only `all` loses those it had taken.
-/

namespace Stylesheet

/-- An input and the tokens that were read from it but not yet taken. -/
structure TokenStream where
  /-- Where tokens are read from. -/
  input : Input
  /-- The tokens read ahead, oldest first. -/
  buffer : List Token
  deriving DecidableEq, Repr

/-- Why an operation on a token stream failed. -/
inductive StreamError where
  /-- A token could not be read, or was not as wanted. -/
  | lex (e : LexError)
  /-- Looking behind the next token is not possible. -/
  | negativeOffset
  deriving DecidableEq, Repr

/-- The wording of a failure. -/
def StreamError.message : StreamError → String
  | .lex e => e.headline
  | .negativeOffset => "offset must be >= 0"

namespace TokenStream

/-- A stream at the beginning of a source. -/
def ofSource (source : String) : TokenStream := ⟨.ofSource source, []⟩

/-- Reads a number of tokens into the buffer, fewer if the input ends or an error stops it. -/
def fill : Nat → TokenStream → Except LexError Unit × TokenStream
  | 0, s => (.ok (), s)
  | n + 1, s =>
    match s.input.readToken with
    | .finished => (.ok (), s)
    | .failed e => (.error e, s)
    | .token t rest => fill n ⟨rest, s.buffer ++ [t]⟩

/-- The token at an offset from the next one, if there is one. -/
def peek (s : TokenStream) : Int → Except StreamError (Option Token) × TokenStream
  | .negSucc _ => (.error .negativeOffset, s)
  | .ofNat k =>
    match s.fill (k + 1 - s.buffer.length) with
    | (.ok (), s') => (.ok s'.buffer[k]?, s')
    | (.error e, s') => (.error (.lex e), s')

/-- Takes the next token, if there is one. -/
def next (s : TokenStream) : Except StreamError (Option Token) × TokenStream :=
  match s.buffer with
  | t :: rest => (.ok (some t), ⟨s.input, rest⟩)
  | [] =>
    match s.input.readToken with
    | .finished => (.ok none, s)
    | .failed e => (.error (.lex e), s)
    | .token t rest => (.ok (some t), ⟨rest, []⟩)

/-- Whether no token is left; finding out reads one. -/
def atEnd (s : TokenStream) : Except StreamError Bool × TokenStream :=
  let (found, s') := s.peek 0
  (found.map (·.isNone), s')

/-- Takes all tokens that are left. If an error stops it, the tokens taken are lost. -/
def all (s : TokenStream) : Except StreamError (List Token) × TokenStream :=
  let drained := s.input.drain
  match drained.failure with
  | none => (.ok (s.buffer ++ drained.tokens), ⟨drained.rest, []⟩)
  | some e => (.error (.lex e), ⟨drained.rest, []⟩)

/-- An error at the place the input has reached, which may lie ahead of the next token. -/
def errorAt (s : TokenStream) (message : String) : LexError := s.input.errorAt (.reported message)

end TokenStream

end Stylesheet
