/-!
# Newlines of text files

A text file may end its lines with a carriage return, a line feed, or both. Reading one makes
a line feed of each, so that what follows meets no carriage return.

Main statement: no carriage return is left (`not_mem_unified`).
-/

namespace Stylesheet.Text

/-- A text with a line feed for each carriage return, and one for a carriage return that a line
feed follows. -/
def unified : List Char → List Char
  | '\r' :: '\n' :: rest => '\n' :: unified rest
  | '\r' :: rest => '\n' :: unified rest
  | c :: rest => c :: unified rest
  | [] => []

theorem not_mem_unified (text : List Char) : '\r' ∉ unified text := by
  fun_induction unified text with
  | case1 rest ih => simpa using ih
  | case2 rest _ ih => simpa using ih
  | case3 c rest _ hc ih => simp [Ne.symm hc, ih]
  | case4 => simp

end Stylesheet.Text
