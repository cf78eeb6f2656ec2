import Stylesheet.Text.Parts

/-!
# Paths

A path is read from a text by its slashes. Empty parts and single dots mean nothing and are
dropped, double dots are kept. A path that begins with a slash is absolute; exactly two leading
slashes are kept apart from one, three or more count as one.
-/

namespace Stylesheet

/-- Where a path starts from. -/
inductive Root where
  /-- The working directory. -/
  | relative
  /-- The root directory. -/
  | absolute
  /-- The root directory, written with two slashes. -/
  | doubled
  deriving DecidableEq, Repr

/-- A path in a tree of files. -/
structure Path where
  /-- Where it starts from. -/
  root : Root
  /-- The names on the way, neither empty nor a single dot. -/
  parts : List String
  deriving DecidableEq, Repr

namespace Path

/-- What leading slashes mean. -/
def rootOf (text : String) : Root :=
  match (text.toList.takeWhile (· == '/')).length with
  | 0 => .relative
  | 2 => .doubled
  | _ => .absolute

/-- Whether a part names something. -/
def isName (part : String) : Bool := part != "" && part != "."

/-- Reads a path. -/
def ofString (text : String) : Path :=
  ⟨rootOf text, ((Text.parts '/' text.toList).map String.ofList).filter isName⟩

/-- How a path begins when it is written. -/
def rootText : Root → String
  | .relative => ""
  | .absolute => "/"
  | .doubled => "//"

/-- The written form of a path; the working directory itself is a dot. -/
def text (p : Path) : String :=
  if p.root = .relative ∧ p.parts = [] then "."
  else rootText p.root ++ "/".intercalate p.parts

/-- The directory a path lies in; a path without names lies in itself. -/
def parent (p : Path) : Path := ⟨p.root, p.parts.dropLast⟩

/-- The path of a name in a directory. -/
def child (p : Path) (name : String) : Path := ⟨p.root, p.parts ++ [name]⟩

@[simp] theorem parent_child (p : Path) (name : String) : (p.child name).parent = p := by
  simp [parent, child]

end Path

end Stylesheet
