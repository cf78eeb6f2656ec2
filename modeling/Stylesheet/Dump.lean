import Stylesheet.Json
import Stylesheet.Text.Quoted
import Stylesheet.Token

/-!
# Dumps

Tokens are shown in one of two formats: text, with one line per token, or JSON, which also
holds the cursors. A summary counts the tokens of each type.

Tokens may be given from outside, with integers that have too many digits to be written. `Format.render`
refuses such tokens. The positions in a text are far below that limit, so the program dumps the tokens of a
text without regard to it, by `Format.dump`.
-/

namespace Stylesheet

/-! ### Formats -/

/-- The formats of a dump. -/
inductive Format where
  /-- One line per token. -/
  | text
  /-- A list of objects. -/
  | json
  deriving DecidableEq, Repr

namespace Format

/-- Every format, in listing order. -/
def all : List Format := [.text, .json]

/-- The name a format is chosen by. -/
def name : Format → String
  | .text => "text"
  | .json => "json"

/-- The format of a given name. -/
def ofName? (text : String) : Option Format := all.find? (·.name == text)

/-- The format of a given name, and text if no format has that name. -/
def ofNameOrText (text : String) : Format := (ofName? text).getD .text

end Format

section

variable {m : Type → Type} [Monad m] (integer : Int → m String)

/-! ### Text -/

namespace Token

/-- Where a token lies: line and column of its start and of its end. -/
def span (t : Token) : m String := do
  let startLine ← integer t.start.line
  let startColumn ← integer t.start.column
  let finishLine ← integer t.finish.line
  let finishColumn ← integer t.finish.column
  return startLine ++ ":" ++ startColumn ++ "-" ++ finishLine ++ ":" ++ finishColumn

/-- The line of a token: span, type and quoted value in columns. -/
def line (t : Token) : m String := do
  let span ← t.span integer
  return Text.leftAligned 15 span ++ " " ++ Text.leftAligned 13 t.type.name ++ " " ++
    Text.quoted t.value ++ "\n"

end Token

/-- The text dump, given how integers are written. -/
def writeText (tokens : List Token) : m String := do
  let lines ← tokens.mapM (Token.line integer)
  return String.join lines

/-! ### JSON -/

/-- A position as a JSON object. -/
def Position.toJson (p : Position) : Json :=
  .object [("cursor", .integer p.cursor), ("line", .integer p.line), ("column", .integer p.column)]

/-- A token as a JSON object. -/
def Token.toJson (t : Token) : Json :=
  .object [("type", .string t.type.name), ("value", .string t.value), ("start", t.start.toJson),
    ("end", t.finish.toJson)]

/-- The JSON dump, given how integers are written. -/
def writeJson (tokens : List Token) : m String := do
  let document ← (Json.array (tokens.map Token.toJson)).write integer 0
  return document ++ "\n"

/-- The dump in a format, given how integers are written. -/
def Format.write : Format → List Token → m String
  | .text => writeText integer
  | .json => writeJson integer

end

/-! ### With the limit and without it -/

/-- The dump of tokens in a format, unless it is to show an integer that has too many digits. -/
def Format.render (format : Format) (tokens : List Token) : Except Text.Unwritable String :=
  format.write Text.writeInteger tokens

/-- The text dump, whatever the integers are. -/
def textDump (tokens : List Token) : String := Id.run (writeText (pure <| Text.integer ·) tokens)

/-- The JSON dump, whatever the integers are. -/
def jsonDump (tokens : List Token) : String := Id.run (writeJson (pure <| Text.integer ·) tokens)

/-- The dump of tokens in a format, whatever the integers are. -/
def Format.dump : Format → List Token → String
  | .text => textDump
  | .json => jsonDump

/-! ### Summary -/

/-- How many tokens are of a type. -/
def countType (type : TokenType) (tokens : List Token) : Nat := tokens.countP (·.type == type)

/-- The line of a summary for one type; a type that does not occur has none. -/
def summaryLine (tokens : List Token) (type : TokenType) : String :=
  match countType type tokens with
  | 0 => ""
  | n => "  " ++ Text.leftAligned 13 type.name ++ " " ++ Text.numeral n ++ "\n"

/-- The number of tokens, and then of each type that occurs. -/
def summary (tokens : List Token) : String :=
  Text.numeral tokens.length ++ " tokens\n" ++
    String.join (TokenType.all.map (summaryLine tokens))

end Stylesheet
