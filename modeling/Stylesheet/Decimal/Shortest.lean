import Stylesheet.Decimal.Binary64

/-!
# Shortest decimals

A floating point number is shown by the decimal with the fewest digits that reads back as the
same number, and of those by the one nearest to it. The decimals that read back are those
between the two midpoints to the neighbouring numbers, and the midpoints themselves belong to
it if the mantissa is even.

For each number of digits only two decimals come into question, the ones next to the number
below and above. Seventeen digits always suffice.
-/

namespace Stylesheet.Decimal

/-- A positive number with the bounds between which decimals read back as it, all three over
one denominator. -/
structure Bracket where
  /-- The lower bound. -/
  low : Nat
  /-- The number. -/
  mid : Nat
  /-- The upper bound. -/
  high : Nat
  /-- The common denominator. -/
  den : Nat
  /-- Whether the bounds themselves belong. -/
  closed : Bool
  deriving DecidableEq, Repr

/-- The bracket of `mantissa * 2 ^ exponent`. Below a power of two the numbers lie closer. -/
def Bracket.ofBinary (mantissa : Nat) (exponent : Int) : Bracket :=
  let up := twoTo exponent.toNat
  let down := twoTo (-exponent).toNat
  let below := if mantissa = twoTo 52 ∧ -1074 < exponent then 1 else 2
  ⟨(4 * mantissa - below) * up, 4 * mantissa * up, (4 * mantissa + 2) * up, 4 * down,
    mantissa % 2 = 0⟩

/-- The bracket of the same number counted in units of a power of ten. -/
def Bracket.inUnits (b : Bracket) : Int → Bracket
  | .ofNat p => { b with den := b.den * tenTo p }
  | .negSucc p =>
    let f := tenTo (p + 1)
    { b with low := b.low * f, mid := b.mid * f, high := b.high * f }

/-- Whether a whole number of units reads back. -/
def Bracket.holds (b : Bracket) (n : Nat) : Bool :=
  if b.closed then b.low ≤ n * b.den && n * b.den ≤ b.high
  else b.low < n * b.den && n * b.den < b.high

/-- The whole number of units next to the number that reads back: the nearer one if both do,
and the even one if they are equally near. -/
def Bracket.nearest? (b : Bracket) : Option Nat :=
  let n := b.mid / b.den
  match b.holds n, b.holds (n + 1) with
  | true, true => some (roundQuotient b.mid b.den)
  | true, false => some n
  | false, true => some (n + 1)
  | false, false => none

/-- How many digits a positive number has before the decimal point; zeros right after the
point count as negative. -/
def Bracket.magnitude (b : Bracket) : Int :=
  if b.den ≤ b.mid then (Nat.toDigits 10 (b.mid / b.den)).length
  else
    let zeros := ((List.range 330).find? (fun j => b.den ≤ b.mid * tenTo (j + 1))).getD 330
    Int.neg zeros

/-- The decimal with the fewest digits that reads back as `mantissa * 2 ^ exponent`, for a
positive mantissa: its digits as a number, and the power of ten they count. -/
def shortest (mantissa : Nat) (exponent : Int) : Nat × Int :=
  let b := Bracket.ofBinary mantissa exponent
  let k := b.magnitude
  let tries := (List.range 17).filterMap fun i =>
    let p := k - (i + 1 : Nat)
    (b.inUnits p).nearest?.map fun n => (n, p)
  tries.head?.getD (0, 0)

end Stylesheet.Decimal
