/-!
# Lines of a text

Reports show a line of the source. Here a line ends at any of the characters that are
commonly taken to end one, and keeps its ending; a carriage return and the line feed after it
are one ending. This is a wider notion than the reader's own, for which only the line feed
counts.

Main statement: the lines of a text, put together, are the text (`flatten_lines`).
-/

namespace Stylesheet.Text

/-- The characters that end a line for display. -/
def isLineEnd (c : Char) : Bool :=
  ['\n', '\r', '\x0b', '\x0c', '\x1c', '\x1d', '\x1e', '\u0085', '\u2028', '\u2029'].contains c

/-- The lines of a text, each with its ending; there is no line after a final ending. -/
def lines : List Char → List (List Char)
  | [] => []
  | '\r' :: '\n' :: cs => ['\r', '\n'] :: lines cs
  | c :: cs =>
    if isLineEnd c then [c] :: lines cs
    else
      match lines cs with
      | [] => [[c]]
      | line :: rest => (c :: line) :: rest

/-- A text without the line feeds at its end. -/
def withoutFinalFeeds (text : List Char) : List Char :=
  (text.reverse.dropWhile (· == '\n')).reverse

theorem flatten_lines (text : List Char) : (lines text).flatten = text := by
  fun_induction lines text <;> simp_all

/-- The line of a given number, counted from 1, without its final line feed. Where there is no
such line the answer is empty. -/
def shownLine (text : String) (number : Int) : String :=
  if number < 1 then ""
  else String.ofList (withoutFinalFeeds ((lines text.toList)[(number - 1).toNat]?.getD []))

end Stylesheet.Text
