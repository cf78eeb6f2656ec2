import Stylesheet.Position

/-!
# Tokens

A token is what the reader makes of one stretch of a stylesheet: its type, its value with
the delimiters taken off, and the two positions it lies between.
-/

namespace Stylesheet

/-- The types of token, in the order in which they are listed and counted. -/
inductive TokenType where
  /-- A run of tabs, line feeds and spaces. -/
  | space
  /-- A line comment or a block comment; the value is its body. -/
  | comment
  /-- Digits with at most one point. -/
  | number
  /-- A colour of three or six hexadecimal digits; the value lacks the hash. -/
  | colorHex
  /-- One separator, bracket, hash or point. -/
  | punctuation
  /-- One operator character, or a run of one that repeats. -/
  | operator
  /-- A name. -/
  | identifier
  /-- A text in double quotes; the value lacks them and keeps the escapes. -/
  | stringDouble
  /-- A text in single quotes; the value lacks them and keeps the escapes. -/
  | stringSingle
  /-- A name behind an at sign; the value lacks the sign. -/
  | atRule
  /-- A name behind a dollar sign; the value lacks the sign. -/
  | variableName
  deriving DecidableEq, Repr

namespace TokenType

/-- Every type, in listing order. -/
def all : List TokenType :=
  [.space, .comment, .number, .colorHex, .punctuation, .operator, .identifier, .stringDouble,
    .stringSingle, .atRule, .variableName]

/-- The name a type is written with. -/
def name : TokenType → String
  | .space => "space"
  | .comment => "comment"
  | .number => "number"
  | .colorHex => "color_hex"
  | .punctuation => "punctuation"
  | .operator => "operator"
  | .identifier => "identifier"
  | .stringDouble => "string_double"
  | .stringSingle => "string_single"
  | .atRule => "atrule"
  | .variableName => "variable"

/-- The type of a given name. -/
def ofName? (text : String) : Option TokenType := all.find? (·.name == text)

theorem mem_all (t : TokenType) : t ∈ all := by cases t <;> decide

theorem ofName?_name (t : TokenType) : ofName? t.name = some t := by cases t <;> decide

theorem name_inj {t t' : TokenType} : t.name = t'.name ↔ t = t' := by
  refine ⟨fun h => ?_, congrArg name⟩
  have hname := congrArg ofName? h
  rwa [ofName?_name, ofName?_name, Option.some.injEq] at hname

end TokenType

/-- One token of a stylesheet. -/
structure Token where
  /-- What kind of token it is. -/
  type : TokenType
  /-- Its text without delimiters. -/
  value : String
  /-- Where its first character stands. -/
  start : Position
  /-- The position after its last character. -/
  finish : Position
  deriving DecidableEq, Repr

end Stylesheet
