import Stylesheet.Text.Layout

/-!
# JSON text

The values that a dump is made of, and their written form: members and items on lines of their
own, two spaces deeper than what holds them, and strings in ASCII only. How integers are written is
left open, because there may be a limit on their digits.
-/

namespace Stylesheet

/-- A JSON value of the kinds that dumps need. -/
inductive Json where
  /-- A string. -/
  | string (text : String)
  /-- A whole number. -/
  | integer (n : Int)
  /-- A list of values. -/
  | array (items : List Json)
  /-- Named values, in the order in which they are written. -/
  | object (members : List (String × Json))

namespace Json

/-- The escape of a 16-bit unit. -/
def unitEscape (unit : Nat) : String := "\\u" ++ Text.hexPadded 4 unit

/-- The escape of a character by its code: one unit, or a pair of surrogates above `0xffff`. -/
def codeEscape (c : Char) : String :=
  if c.toNat < 0x10000 then unitEscape c.toNat
  else
    unitEscape (0xd800 + (c.toNat - 0x10000) / 0x400) ++
      unitEscape (0xdc00 + (c.toNat - 0x10000) % 0x400)

/-- A character as it is written in a string. -/
def writtenChar (c : Char) : String :=
  if c == '"' then "\\\""
  else if c == '\\' then "\\\\"
  else if c == '\n' then "\\n"
  else if c == '\r' then "\\r"
  else if c == '\t' then "\\t"
  else if c == '\x0c' then "\\f"
  else if c == '\x08' then "\\b"
  else if 0x20 ≤ c.toNat && c.toNat ≤ 0x7e then String.singleton c
  else codeEscape c

/-- A string with its quotes. -/
def writtenString (text : String) : String :=
  "\"" ++ String.join (text.toList.map writtenChar) ++ "\""

/-- The start of a line at a depth of nesting. -/
def newLine (depth : Nat) : String := "\n" ++ Text.spaces (2 * depth : Nat)

/-- Parts between brackets, each on a line of its own; without parts the brackets touch. -/
def bracketed (depth : Nat) (opening closing : String) (parts : List String) : String :=
  if parts.isEmpty then opening ++ closing
  else
    opening ++ newLine (depth + 1) ++ ("," ++ newLine (depth + 1)).intercalate parts ++
      newLine depth ++ closing

section

variable {m : Type → Type} [Monad m] (integer : Int → m String)

mutual

/-- The written form of a value that stands at a depth of nesting, given how integers are written. -/
def write (depth : Nat) : Json → m String
  | .string text => return writtenString text
  | .integer n => integer n
  | .array items => do
    let parts ← writeItems (depth + 1) items
    return bracketed depth "[" "]" parts
  | .object members => do
    let parts ← writeMembers (depth + 1) members
    return bracketed depth "\x7b" "\x7d" parts

/-- The written forms of list items. -/
def writeItems (depth : Nat) : List Json → m (List String)
  | [] => return []
  | item :: rest => do
    let part ← write depth item
    let parts ← writeItems depth rest
    return part :: parts

/-- The written forms of members: the name, a colon and the value. -/
def writeMembers (depth : Nat) : List (String × Json) → m (List String)
  | [] => return []
  | (name, value) :: rest => do
    let part ← write depth value
    let parts ← writeMembers depth rest
    return (writtenString name ++ ": " ++ part) :: parts

end

end

end Json

end Stylesheet
