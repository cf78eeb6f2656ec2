import Stylesheet.Decimal.Shortest
import Stylesheet.Text.Quoted

/-!
# TOML values

The values a configuration file can hold, and how they are shown in messages. A value is
shown in one of two ways: bare, where a string and a date stand for themselves, or as a
literal, where they show what they are. A list or table shows its parts as literals.
-/

namespace Stylesheet.Toml

/-- A day of the calendar. -/
structure Date where
  /-- The year. -/
  year : Nat
  /-- The month, from 1. -/
  month : Nat
  /-- The day of the month, from 1. -/
  day : Nat
  deriving DecidableEq, Repr

/-- A time of day. -/
structure Time where
  /-- The hour. -/
  hour : Nat
  /-- The minute. -/
  minute : Nat
  /-- The second. -/
  second : Nat
  /-- The millionths of a second. -/
  micro : Nat
  deriving DecidableEq, Repr

/-- A value. -/
inductive Value where
  /-- A text. -/
  | string (text : String)
  /-- A whole number. -/
  | integer (n : Int)
  /-- A floating point number. -/
  | float (x : Decimal.Binary64)
  /-- A truth value. -/
  | boolean (b : Bool)
  /-- A day. -/
  | date (d : Date)
  /-- A time of day. -/
  | time (t : Time)
  /-- A day and a time, with the minutes its clock is ahead of universal time if that is
  known. -/
  | dateTime (d : Date) (t : Time) (ahead : Option Int)
  /-- A list. -/
  | array (items : List Value)
  /-- Named values, in the order in which they were given. -/
  | table (entries : List (String × Value))

/-! ### Calendar -/

/-- Whether a year has a 29th of February. -/
def isLeapYear (year : Nat) : Bool := (year % 4 == 0 && year % 100 != 0) || year % 400 == 0

/-- The number of days of a month. -/
def daysInMonth (year month : Nat) : Nat :=
  if month = 2 then if isLeapYear year then 29 else 28
  else if month = 4 ∨ month = 6 ∨ month = 9 ∨ month = 11 then 30
  else 31

/-- Whether a date is one of the calendar, which begins with the year 1. -/
def Date.isValid (d : Date) : Bool := 1 ≤ d.year && d.day ≤ daysInMonth d.year d.month

/-! ### Numbers as text -/

/-- The digits of a decimal without trailing zeros, and where its point stands in them. -/
def significantDigits (digits : Nat) (exponent : Int) : List Char × Int :=
  let all := Nat.toDigits 10 digits
  ((all.reverse.dropWhile (· == '0')).reverse, all.length + exponent)

/-- A decimal with its point written out. -/
def positional (digits : List Char) (point : Int) : String :=
  if point ≤ 0 then
    "0." ++ String.ofList (List.replicate (-point).toNat '0') ++ String.ofList digits
  else
    let whole := digits.take point.toNat
    let fraction := digits.drop point.toNat
    String.ofList whole ++ String.ofList (List.replicate (point.toNat - whole.length) '0') ++ "." ++
      (if fraction.isEmpty then "0" else String.ofList fraction)

/-- A decimal with one digit before the point and a power of ten of at least two digits. -/
def scientific (digits : List Char) (point : Int) : String :=
  let power := point - 1
  String.ofList (digits.take 1) ++
    (if digits.length ≤ 1 then "" else "." ++ String.ofList (digits.drop 1)) ++
    "e" ++ (if power < 0 then "-" else "+") ++ Text.zeroPadded 2 power.natAbs

/-- A floating point number in the fewest digits. The point is written out if at most sixteen
digits stand before it, and at most three zeros right after it. -/
def floatText : Decimal.Binary64 → String
  | .nan => "nan"
  | .infinite negative => if negative then "-inf" else "inf"
  | .finite negative mantissa exponent =>
    let size :=
      if mantissa = 0 then "0.0"
      else
        let (n, p) := Decimal.shortest mantissa exponent
        let (digits, point) := significantDigits n p
        if -4 < point ∧ point ≤ 16 then positional digits point else scientific digits point
    (if negative then "-" else "") ++ size

/-! ### Dates as text -/

/-- A day with hyphens. -/
def Date.text (d : Date) : String :=
  Text.zeroPadded 4 d.year ++ "-" ++ Text.zeroPadded 2 d.month ++ "-" ++ Text.zeroPadded 2 d.day

/-- A time with colons; millionths are written only if there are any. -/
def Time.text (t : Time) : String :=
  Text.zeroPadded 2 t.hour ++ ":" ++ Text.zeroPadded 2 t.minute ++ ":" ++
    Text.zeroPadded 2 t.second ++ (if t.micro = 0 then "" else "." ++ Text.zeroPadded 6 t.micro)

/-- How far a clock is ahead of universal time, in hours and minutes. -/
def offsetText (ahead : Int) : String :=
  (if ahead < 0 then "-" else "+") ++ Text.zeroPadded 2 (ahead.natAbs / 60) ++ ":" ++
    Text.zeroPadded 2 (ahead.natAbs % 60)

/-- The numbers of a day. -/
def Date.fields (d : Date) : List String := [d.year, d.month, d.day].map Text.numeral

/-- The numbers of a time, without the zeros at its end after the minute. -/
def Time.fields (t : Time) : List String :=
  let shown :=
    if t.micro ≠ 0 then [t.hour, t.minute, t.second, t.micro]
    else if t.second ≠ 0 then [t.hour, t.minute, t.second]
    else [t.hour, t.minute]
  shown.map Text.numeral

/-- How far a clock is ahead of universal time, as a literal: whole days and the seconds above
them. -/
def offsetLiteral (ahead : Int) : String :=
  if ahead = 0 then "datetime.timezone.utc"
  else
    let days := if ahead < 0 then "days=-1, " else ""
    let seconds := (60 * ahead) % 86400
    "datetime.timezone(datetime.timedelta(" ++ days ++ "seconds=" ++ Text.integer seconds ++ "))"

/-! ### Values as text -/

/-- Why a value cannot be shown. -/
inductive Unshowable where
  /-- A whole number has too many digits. -/
  | longInteger
  /-- Too many values stand within each other. -/
  | tooDeep
  deriving DecidableEq, Repr

/-- How many values within each other can be shown. -/
def maxShown : Nat := 994

/-- A whole number, unless it has too many digits. -/
def integerText (n : Int) : Except Unshowable String :=
  (Text.writeInteger n).mapError fun _ => .longInteger

/-- Parts of a value, separated by commas. -/
def commaSeparated (parts : List String) : String := ", ".intercalate parts

namespace Value

mutual

/-- A value as a literal, where so many values may still stand within each other. -/
def literalWithin (room : Nat) (v : Value) : Except Unshowable String :=
  if room = 0 then .error .tooDeep
  else
    match v with
    | .string text => .ok (Text.quoted text)
    | .integer n => integerText n
    | .float x => .ok (floatText x)
    | .boolean b => .ok (if b then "True" else "False")
    | .date d => .ok ("datetime.date(" ++ commaSeparated d.fields ++ ")")
    | .time t => .ok ("datetime.time(" ++ commaSeparated t.fields ++ ")")
    | .dateTime d t ahead =>
      let zone := (ahead.map fun a => "tzinfo=" ++ offsetLiteral a).toList
      .ok ("datetime.datetime(" ++ commaSeparated (d.fields ++ t.fields ++ zone) ++ ")")
    | .array items => do
      let parts ← literals (room - 1) items
      return "[" ++ commaSeparated parts ++ "]"
    | .table entries => do
      let parts ← entryLiterals (room - 1) entries
      return "\x7b" ++ commaSeparated parts ++ "\x7d"

/-- The items of a list as literals. -/
def literals (room : Nat) : List Value → Except Unshowable (List String)
  | [] => .ok []
  | v :: vs => do
    let part ← v.literalWithin room
    let parts ← literals room vs
    return part :: parts

/-- The entries of a table as literals, each name with its value. -/
def entryLiterals (room : Nat) : List (String × Value) → Except Unshowable (List String)
  | [] => .ok []
  | (name, v) :: rest => do
    let part ← v.literalWithin room
    let parts ← entryLiterals room rest
    return (Text.quoted name ++ ": " ++ part) :: parts

end

/-- A value as a literal. -/
def literal (v : Value) : Except Unshowable String := v.literalWithin maxShown

/-- A value as it stands for itself. -/
def bare : Value → Except Unshowable String
  | .string text => .ok text
  | .date d => .ok d.text
  | .time t => .ok t.text
  | .dateTime d t ahead => .ok (d.text ++ " " ++ t.text ++ (ahead.map offsetText).getD "")
  | v => v.literal

end Value

end Stylesheet.Toml
