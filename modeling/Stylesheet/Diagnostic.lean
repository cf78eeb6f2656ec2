import Stylesheet.Input

/-!
# Diagnostics

The first error of a document, if there is one, is shown in it as a diagnostic: a range of one
column at the place of the error, with lines counted from 0.
-/

namespace Stylesheet

/-- A place in a document as editors count: lines from 0. -/
structure Place where
  /-- The line, counted from 0. -/
  line : Int
  /-- The characters before it on its line. -/
  character : Int
  deriving DecidableEq, Repr

/-- An error shown in a document. -/
structure Diagnostic where
  /-- Where the marked range starts. -/
  start : Place
  /-- Where it ends. -/
  finish : Place
  /-- What is wrong. -/
  message : String
  /-- How serious it is; 1 is an error. -/
  severity : Nat
  /-- Who says so. -/
  source : String
  deriving DecidableEq, Repr

namespace Diagnostic

/-- The diagnostic of an error. Without a position it stands at the beginning. -/
def ofError (e : LexError) : Diagnostic :=
  let line := e.position.elim 0 (·.line - 1)
  let column := e.position.elim 0 (·.column)
  ⟨⟨line, column⟩, ⟨line, column + 1⟩, e.message, 1, "scsslex"⟩

/-- The diagnostics of a text: none if it can be read, else the first error. -/
def ofText (text : String) : List Diagnostic := ((tokenize text).failure.map ofError).toList

end Diagnostic

end Stylesheet
