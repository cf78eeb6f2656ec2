/-!
# Character classes

A stylesheet is cut into tokens by looking at single characters. The classes below are
the only properties of a character that the reader ever asks for. All of them are sets
of ASCII characters; in particular a carriage return is in none of them, and no
character outside ASCII is.
-/

namespace Stylesheet

/-! ### The classes as tests -/

/-- Tab, line feed and space, the characters that may stand between tokens. -/
def isBlank (c : Char) : Bool := c == '\t' || c == '\n' || c == ' '

/-- The line feed, the only character that ends a line for the reader. -/
def isLineBreak (c : Char) : Bool := c == '\n'

/-- The ten decimal digits. -/
def isDigit (c : Char) : Bool := '0' ≤ c && c ≤ '9'

/-- The hexadecimal digits, in either case. -/
def isHexDigit (c : Char) : Bool :=
  isDigit c || ('a' ≤ c && c ≤ 'f') || ('A' ≤ c && c ≤ 'F')

/-- The letters of ASCII. -/
def isLetter (c : Char) : Bool := ('a' ≤ c && c ≤ 'z') || ('A' ≤ c && c ≤ 'Z')

/-- What an identifier may begin with: a letter or an underscore. -/
def isIdentStart (c : Char) : Bool := isLetter c || c == '_'

/-- What an identifier may go on with: also digits and hyphens. -/
def isIdentChar (c : Char) : Bool := isIdentStart c || isDigit c || c == '-'

/-- The characters that are tokens by themselves: separators, brackets, hash and point. -/
def isPunctuation (c : Char) : Bool :=
  [',', ';', '(', ')', '\x7b', '\x7d', '[', ']', ':', '#', '.'].contains c

/-- The characters that operators are written with. -/
def isOperator (c : Char) : Bool :=
  ['+', '-', '*', '/', '%', '=', '&', '|', '!', '~', '>', '<', '^'].contains c

/-- The operators that are read as a run of one character, such as two ampersands. -/
def isRepeatable (c : Char) : Bool := ['&', '|', '='].contains c

/-! ### The classes as names -/

/-- The character classes, in the order in which they are listed. -/
inductive CharClass where
  /-- Tab, line feed, space. -/
  | blank
  /-- Line feed. -/
  | lineBreak
  /-- Decimal digit. -/
  | digit
  /-- Hexadecimal digit. -/
  | hexDigit
  /-- First character of an identifier. -/
  | identStart
  /-- Further character of an identifier. -/
  | identChar
  /-- Token by itself. -/
  | punctuation
  /-- Operator character. -/
  | operator
  /-- Operator character that forms runs. -/
  | repeatable
  deriving DecidableEq, Repr

namespace CharClass

/-- Every class, in listing order. -/
def all : List CharClass :=
  [.blank, .lineBreak, .digit, .hexDigit, .identStart, .identChar, .punctuation, .operator,
    .repeatable]

/-- Membership of a character in a class. -/
def has : CharClass → Char → Bool
  | .blank => isBlank
  | .lineBreak => isLineBreak
  | .digit => isDigit
  | .hexDigit => isHexDigit
  | .identStart => isIdentStart
  | .identChar => isIdentChar
  | .punctuation => isPunctuation
  | .operator => isOperator
  | .repeatable => isRepeatable

/-- Membership of a text in a class: only a text of exactly one character is a member of
anything. -/
def hasText (k : CharClass) (text : String) : Bool :=
  match text.toList with
  | [c] => k.has c
  | _ => false

/-- The classes of a text, one answer per class in listing order. -/
def profile (text : String) : List Bool := all.map (·.hasText text)

end CharClass

end Stylesheet
