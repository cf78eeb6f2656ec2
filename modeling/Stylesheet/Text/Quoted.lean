import Stylesheet.Text.Layout
import Stylesheet.Text.Printable

/-!
# Quoted text

A text is shown between quotes on one line. It is put between single quotes unless it holds
one and no double quote. A backslash and the quote used are escaped by a backslash, the line
feed, carriage return and tab have escapes of their own, and any other character that is not
printable is written by its code in hexadecimal, in two, four or eight digits.
-/

namespace Stylesheet.Text

/-- The quote that a text is put between. -/
def delimiter (text : List Char) : Char :=
  if text.contains '\'' && !text.contains '"' then '"' else '\''

/-- The code of a character in the shortest of the three forms that holds it. -/
def codeEscape (c : Char) : String :=
  if c.toNat < 0x100 then "\\x" ++ hexPadded 2 c.toNat
  else if c.toNat < 0x10000 then "\\u" ++ hexPadded 4 c.toNat
  else "\\U" ++ hexPadded 8 c.toNat

/-- A character as it is written between the given quotes. -/
def quotedChar (quote c : Char) : String :=
  if c == quote || c == '\\' then String.ofList ['\\', c]
  else if c == '\n' then "\\n"
  else if c == '\r' then "\\r"
  else if c == '\t' then "\\t"
  else if isPrintable c then String.singleton c
  else codeEscape c

/-- A text between quotes. -/
def quoted (text : String) : String :=
  let quote := delimiter text.toList
  String.singleton quote ++ String.join (text.toList.map (quotedChar quote)) ++
    String.singleton quote

end Stylesheet.Text
