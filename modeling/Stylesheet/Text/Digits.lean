import Stylesheet.CharClass

/-!
# Reading digits

The numbers that digits stand for, in any base up to sixteen.
-/

namespace Stylesheet.Text

/-- The number a hexadecimal digit stands for. -/
def digitValue (c : Char) : Nat :=
  if isDigit c then c.toNat - '0'.toNat
  else if 'a' ≤ c then c.toNat - 'a'.toNat + 10
  else c.toNat - 'A'.toNat + 10

/-- The number that digits stand for. -/
def numberOf (base : Nat) (digits : List Char) : Nat :=
  digits.foldl (fun n c => base * n + digitValue c) 0

end Stylesheet.Text
