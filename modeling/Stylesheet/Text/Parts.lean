/-!
# Parts of a text

A text is cut at the first occurrence of a separator, or at each of them.
-/

namespace Stylesheet.Text

/-- The text before the first separator, and the one behind it if there is a separator. -/
def cut (separator : Char) (text : List Char) : List Char × Option (List Char) :=
  (text.takeWhile (· != separator), (text.dropWhile (· != separator)).tail?)

/-- The parts between the separators of a text; without a separator it is the only part. -/
def parts (separator : Char) : List Char → List (List Char)
  | [] => [[]]
  | c :: cs =>
    match parts separator cs with
    | [] => [[c]]
    | part :: rest => if c = separator then [] :: part :: rest else (c :: part) :: rest

/-- The text behind the last separator; without a separator it is all of it. -/
def afterLast (separator : Char) (text : List Char) : List Char :=
  (text.reverse.takeWhile (· != separator)).reverse

end Stylesheet.Text
