/-!
# Positions

A position in a text is a cursor together with the line and the column it falls on. The
cursor counts characters from 0, lines are numbered from 1 and columns from 0. A position
moves only by reading a character; a read past the end of the text still counts, as a
character that is not a line break.

The three numbers are integers because a position may also be given from outside, where
nothing ties them together.
-/

namespace Stylesheet

/-- A place in a text. -/
structure Position where
  /-- How many characters lie before it. -/
  cursor : Int
  /-- The number of its line, counted from 1. -/
  line : Int
  /-- How many characters of its line lie before it. -/
  column : Int
  deriving DecidableEq, Repr

namespace Position

/-- The beginning of a text. -/
def start : Position := ⟨0, 1, 0⟩

/-- The position after one read: a line feed begins a new line, anything else, and also
nothing at all, moves on by one column. -/
def step (p : Position) : Option Char → Position
  | some '\n' => ⟨p.cursor + 1, p.line + 1, 0⟩
  | _ => ⟨p.cursor + 1, p.line, p.column + 1⟩

/-- The position after reading a text. -/
def advance (p : Position) (text : List Char) : Position :=
  text.foldl (fun q c => q.step (some c)) p

@[simp] theorem advance_nil (p : Position) : p.advance [] = p := rfl

@[simp] theorem advance_cons (p : Position) (c : Char) (text : List Char) :
    p.advance (c :: text) = (p.step (some c)).advance text := rfl

@[simp] theorem advance_append (p : Position) (a b : List Char) :
    p.advance (a ++ b) = (p.advance a).advance b := by
  simp [advance]

@[simp] theorem step_cursor (p : Position) (c : Option Char) :
    (p.step c).cursor = p.cursor + 1 := by
  unfold step; split <;> rfl

@[simp] theorem advance_cursor (p : Position) (text : List Char) :
    (p.advance text).cursor = p.cursor + text.length := by
  induction text generalizing p with
  | nil => simp
  | cons c text ih => simp [ih]; omega

end Position

end Stylesheet
