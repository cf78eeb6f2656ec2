/-!
# Laying out text

Numerals, runs of spaces and columns of a fixed width, as the reports and dumps use them. There is a
limit on the digits of an integer that is read or written (`maxDigits`). `integer` is the numeral whatever
its length, `writeInteger` refuses an integer above the limit.
-/

namespace Stylesheet.Text

/-- The decimal numeral of a natural number, without leading zeros. -/
def numeral (n : Nat) : String := String.ofList (Nat.toDigits 10 n)

/-- The decimal numeral of an integer: a minus sign stands before a negative one. -/
def integer : Int → String
  | .ofNat n => numeral n
  | .negSucc n => "-" ++ numeral (n + 1)

/-- The most digits an integer is read or written with. -/
def maxDigits : Nat := 4300

/-- Why an integer is not written. -/
inductive Unwritable where
  /-- It has too many digits. -/
  | longInteger
  deriving DecidableEq, Repr

/-- What the limit on digits is. -/
def digitLimit : String := "Exceeds the limit (" ++ numeral maxDigits ++ " digits) for integer string conversion"

/-- What can be done about it. -/
def digitAdvice : String := "; use sys.set_int_max_str_digits() to increase the limit"

/-- The wording of a refusal. -/
def Unwritable.message : Unwritable → String
  | .longInteger => digitLimit ++ digitAdvice

/-- The numeral of an integer, unless it has too many digits. The sign is none of them. -/
def writeInteger (n : Int) : Except Unwritable String :=
  if maxDigits < (Nat.toDigits 10 n.natAbs).length then .error .longInteger else .ok (integer n)

/-- A run of spaces; a negative length gives none. -/
def spaces (n : Int) : String := String.ofList (List.replicate n.toNat ' ')

theorem toList_spaces (n : Nat) : (spaces n).toList = List.replicate n ' ' := by
  rw [spaces, String.toList_ofList, Int.toNat_natCast]

/-- A text filled up with spaces on its right to a width; a longer text is left as it is. -/
def leftAligned (width : Nat) (text : String) : String :=
  text ++ spaces ((width - text.length : Nat) : Int)

/-- A numeral filled up with zeros on its left to a width. -/
def zeroPadded (width : Nat) (n : Nat) : String :=
  let digits := Nat.toDigits 10 n
  String.ofList (List.replicate (width - digits.length) '0' ++ digits)

/-- The hexadecimal numeral of a number in lower case, filled up with zeros to a width. -/
def hexPadded (width : Nat) (n : Nat) : String :=
  let digits := Nat.toDigits 16 n
  String.ofList (List.replicate (width - digits.length) '0' ++ digits)

end Stylesheet.Text
