import Stylesheet.LexError

/-!
# Expectations

A parser that reads tokens wants the next one to be of a certain type, or to have a certain
value. An expectation can be tested, which answers yes or no, or required, which gives the
token back or fails at its place. A missing token meets no expectation, and the failure then
has no place.
-/

namespace Stylesheet

/-- What a token is wanted to be. -/
inductive Expectation where
  /-- Of the type with this name; a name that no type has is never met. -/
  | type (name : String)
  /-- Of exactly this value. -/
  | value (text : String)
  deriving DecidableEq, Repr

namespace Expectation

/-- Whether a token is as wanted. -/
def metBy : Expectation → Token → Bool
  | .type name, t => t.type.name == name
  | .value text, t => t.value == text

/-- Whether there is a token and it is as wanted. -/
def test (e : Expectation) (found : Option Token) : Bool := found.any e.metBy

/-- The fault of finding something else. -/
def fault : Expectation → Option Token → Fault
  | .type name, found => .wantedType name (found.map (·.type))
  | .value text, found => .wantedValue text (found.map (·.value))

/-- The token itself if it is as wanted, and otherwise an error at its start. -/
def require (e : Expectation) (found : Option Token) : Except LexError Token :=
  match found with
  | none => .error ⟨e.fault none, none, none⟩
  | some t =>
    if e.metBy t then .ok t
    else .error ⟨e.fault (some t), some t.start, none⟩

/-- Requiring gives a token exactly where testing says yes. -/
theorem require_eq_ok_iff {e : Expectation} {found : Option Token} {t : Token} :
    e.require found = .ok t ↔ found = some t ∧ e.test found = true := by
  cases found with
  | none => simp [require]
  | some u =>
    by_cases h : e.metBy u
    · simp [require, test, h]
    · simp [require, test, h]

end Expectation

end Stylesheet
