import Stylesheet.Text.Layout
import Stylesheet.Text.Lines
import Stylesheet.Token

/-!
# Errors of reading

An error has a cause, and where it is known, a position and the text it was met in.
`LexError.headline` is its one-line form, and `LexError.report` shows the source line with a
caret under the column. Lines and columns are those of a text, so both are written without regard to
the limit on digits.
-/

namespace Stylesheet

/-- Why reading or checking a token failed. -/
inductive Fault where
  /-- The character opens no lexeme. -/
  | unhandled (c : Char)
  /-- A token of one type was wanted, another one or the end of input was found. -/
  | wantedType (wanted : String) (found : Option TokenType)
  /-- A token of one value was wanted, another one or the end of input was found. -/
  | wantedValue (wanted : String) (found : Option String)
  /-- Whoever reads the tokens reports an error in words of their own. -/
  | reported (message : String)
  deriving DecidableEq, Repr

/-- The wording of a fault. -/
def Fault.message : Fault → String
  | .unhandled c => "Can't handle character: \"" ++ String.singleton c ++ "\""
  | .wantedType wanted none => "Expected a " ++ wanted ++ ", got end of input"
  | .wantedType wanted (some found) => "Expected a " ++ wanted ++ ", got a " ++ found.name
  | .wantedValue wanted none => "Expected '" ++ wanted ++ "', got end of input"
  | .wantedValue wanted (some found) => "Expected '" ++ wanted ++ "', got '" ++ found ++ "'"
  | .reported message => message

/-- A fault, with its place if it has one and the text it was met in if that is at hand. -/
structure LexError where
  /-- What went wrong. -/
  fault : Fault
  /-- Where. -/
  position : Option Position
  /-- In which text. -/
  source : Option String
  deriving DecidableEq, Repr

namespace LexError

/-- The wording without the place. -/
def message (e : LexError) : String := e.fault.message

/-- The wording, followed by line and column in brackets where there is a position. -/
def headline (e : LexError) : String :=
  match e.position with
  | none => e.message
  | some p => e.message ++ " (" ++ Text.integer p.line ++ ":" ++ Text.integer p.column ++ ")"

/-- The file name shown when none is given. -/
def defaultFile : String := "input.scss"

/-- The lines of a report at a position: the place, the source line behind its number, and a
caret under the column. The bars stand one below the other. -/
def excerpt (file : String) (source : String) (p : Position) : List String :=
  let number := Text.integer p.line
  let gutter := Text.spaces (number.length + 1)
  [gutter ++ "--> " ++ file ++ ":" ++ number ++ ":" ++ Text.integer p.column,
    gutter ++ "|",
    number ++ " | " ++ Text.shownLine source p.line,
    gutter ++ "| " ++ Text.spaces p.column ++ "^"]

/-- The full report of an error, without a line feed at its end. -/
def report (e : LexError) (file : String) : String :=
  let top := "error: " ++ e.message
  match e.position with
  | none => "\n".intercalate [top, " --> " ++ file]
  | some p => "\n".intercalate (top :: excerpt file (e.source.getD "") p)

end LexError

end Stylesheet
