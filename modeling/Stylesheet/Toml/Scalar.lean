import Stylesheet.Text.Digits
import Stylesheet.Toml.Tree

/-!
# Reading strings, numbers, dates and keys

Each reader takes a text and gives what it read together with the text after it, and a proof
that the latter is shorter. That proof is what lets the readers of nested values end.
-/

namespace Stylesheet.Toml

/-- Why a document cannot be read. -/
inductive Failure where
  /-- It is not TOML. -/
  | malformed
  /-- A whole number has this many digits, which are too many. -/
  | longInteger (digits : Nat)
  /-- Too many lists and inline tables stand within each other. -/
  | tooDeep
  deriving DecidableEq, Repr

/-- Something read from the beginning of a text. -/
structure Parsed (text : List Char) (α : Type) where
  /-- What was read. -/
  value : α
  /-- The text after it. -/
  rest : List Char
  /-- Something was used up. -/
  shorter : rest.length < text.length

/-- What was read from a shorter text, as read from a longer one. -/
def Parsed.extend {α β : Type} {inner outer : List Char} (p : Parsed inner α) (f : α → β)
    (h : inner.length ≤ outer.length) : Parsed outer β :=
  ⟨f p.value, p.rest, Nat.lt_of_lt_of_le p.shorter h⟩

/-! ### Characters -/

/-- Space and tab. -/
def isGap (c : Char) : Bool := c == ' ' || c == '\t'

/-- Space, tab and line feed. -/
def isGapOrFeed (c : Char) : Bool := isGap c || c == '\n'

/-- The control characters of ASCII except tab; no comment or string holds one, but for the line
feeds of strings on several lines. -/
def isControl (c : Char) : Bool := (c.toNat < 0x20 && c != '\t') || c.toNat == 0x7f

/-- A text without the spaces and tabs at its beginning. -/
def skipGaps (text : List Char) : List Char := text.dropWhile isGap

theorem length_dropWhile_le (p : Char → Bool) (text : List Char) :
    (text.dropWhile p).length ≤ text.length :=
  (List.dropWhile_sublist p).length_le

theorem length_skipGaps_le (text : List Char) : (skipGaps text).length ≤ text.length :=
  length_dropWhile_le _ _

/-- The character whose code hexadecimal digits give. -/
def coded? (digits : List Char) : Option Char :=
  let n := Text.numberOf 16 digits
  if digits.all isHexDigit then
    if h : n.isValidChar then some (Char.ofNatAux n h) else none
  else none

/-- The character that a letter behind a backslash stands for. -/
def escaped? : Char → Option Char
  | 'b' => some '\x08'
  | 't' => some '\t'
  | 'n' => some '\n'
  | 'f' => some '\x0c'
  | 'r' => some '\r'
  | '"' => some '"'
  | '\\' => some '\\'
  | _ => none

/-! ### Strings -/

/-- A string in double quotes, behind the first of them. -/
def basicString : (text : List Char) → Option (Parsed text (List Char))
  | [] => none
  | '"' :: rest => some ⟨[], rest, Nat.lt_succ_self _⟩
  | '\\' :: 'u' :: a :: b :: c :: d :: rest => do
    let x ← coded? [a, b, c, d]
    let p ← basicString rest
    return p.extend (x :: ·) (by simp only [List.length_cons]; omega)
  | '\\' :: 'U' :: a :: b :: c :: d :: e :: f :: g :: h :: rest => do
    let x ← coded? [a, b, c, d, e, f, g, h]
    let p ← basicString rest
    return p.extend (x :: ·) (by simp only [List.length_cons]; omega)
  | '\\' :: e :: rest => do
    let x ← escaped? e
    let p ← basicString rest
    return p.extend (x :: ·) (by simp only [List.length_cons]; omega)
  | c :: rest =>
    if c = '\\' ∨ isControl c then none
    else do
      let p ← basicString rest
      return p.extend (c :: ·) (Nat.le_succ _)

/-- What a line ending in a backslash goes on with: the blank rest of the line and all that is
blank after it are left out. -/
def continued? (text : List Char) : Option (List Char) :=
  match skipGaps text with
  | '\n' :: rest => some (rest.dropWhile isGapOrFeed)
  | _ => none

theorem length_continued?_lt {text rest : List Char} (h : continued? text = some rest) :
    rest.length < text.length := by
  unfold continued? at h
  split at h
  · next r hr =>
    cases h
    have h1 := length_skipGaps_le text
    have h2 := length_dropWhile_le isGapOrFeed r
    rw [hr, List.length_cons] at h1
    omega
  · cases h

/-- A string in three double quotes, behind the first three. Up to two quotes right before the
closing ones belong to it. -/
def multilineString (text : List Char) : Option (Parsed text (List Char)) :=
  match text with
  | [] => none
  | '"' :: '"' :: '"' :: '"' :: '"' :: rest =>
    some ⟨['"', '"'], rest, by simp only [List.length_cons]; omega⟩
  | '"' :: '"' :: '"' :: '"' :: rest => some ⟨['"'], rest, by simp only [List.length_cons]; omega⟩
  | '"' :: '"' :: '"' :: rest => some ⟨[], rest, by simp only [List.length_cons]; omega⟩
  | '\\' :: 'u' :: a :: b :: c :: d :: rest => do
    let x ← coded? [a, b, c, d]
    let p ← multilineString rest
    return p.extend (x :: ·) (by simp only [List.length_cons]; omega)
  | '\\' :: 'U' :: a :: b :: c :: d :: e :: f :: g :: h :: rest => do
    let x ← coded? [a, b, c, d, e, f, g, h]
    let p ← multilineString rest
    return p.extend (x :: ·) (by simp only [List.length_cons]; omega)
  | '\\' :: e :: rest =>
    if isGapOrFeed e then
      match h : continued? (e :: rest) with
      | none => none
      | some rest' =>
        have := length_continued?_lt h
        do
          let p ← multilineString rest'
          return p.extend id (by simp only [List.length_cons] at this ⊢; omega)
    else do
      let x ← escaped? e
      let p ← multilineString rest
      return p.extend (x :: ·) (by simp only [List.length_cons]; omega)
  | c :: rest =>
    if c = '\\' ∨ (isControl c ∧ c ≠ '\n') then none
    else do
      let p ← multilineString rest
      return p.extend (c :: ·) (Nat.le_succ _)
termination_by text.length
decreasing_by all_goals simp_all <;> omega

/-- A string in single quotes, behind the first of them; it holds no escapes. -/
def literalString : (text : List Char) → Option (Parsed text (List Char))
  | [] => none
  | '\'' :: rest => some ⟨[], rest, Nat.lt_succ_self _⟩
  | c :: rest =>
    if isControl c then none
    else do
      let p ← literalString rest
      return p.extend (c :: ·) (Nat.le_succ _)

/-- A string in three single quotes, behind the first three. Up to two quotes right before the
closing ones belong to it. -/
def multilineLiteral : (text : List Char) → Option (Parsed text (List Char))
  | [] => none
  | '\'' :: '\'' :: '\'' :: '\'' :: '\'' :: rest =>
    some ⟨['\'', '\''], rest, by simp only [List.length_cons]; omega⟩
  | '\'' :: '\'' :: '\'' :: '\'' :: rest =>
    some ⟨['\''], rest, by simp only [List.length_cons]; omega⟩
  | '\'' :: '\'' :: '\'' :: rest => some ⟨[], rest, by simp only [List.length_cons]; omega⟩
  | c :: rest =>
    if isControl c ∧ c ≠ '\n' then none
    else do
      let p ← multilineLiteral rest
      return p.extend (c :: ·) (Nat.le_succ _)

/-- A text without the line feed right behind opening quotes. -/
def skipFeed : List Char → List Char
  | '\n' :: rest => rest
  | text => text

theorem length_skipFeed_le (text : List Char) : (skipFeed text).length ≤ text.length := by
  unfold skipFeed
  split <;> simp

/-- A string of any kind, from its opening quotes on. -/
def string? : (text : List Char) → Option (Parsed text String)
  | '"' :: '"' :: '"' :: rest => do
    let p ← multilineString (skipFeed rest)
    return p.extend String.ofList (by
      have := length_skipFeed_le rest
      simp only [List.length_cons]; omega)
  | '"' :: rest => do
    let p ← basicString rest
    return p.extend String.ofList (Nat.le_succ _)
  | '\'' :: '\'' :: '\'' :: rest => do
    let p ← multilineLiteral (skipFeed rest)
    return p.extend String.ofList (by
      have := length_skipFeed_le rest
      simp only [List.length_cons]; omega)
  | '\'' :: rest => do
    let p ← literalString rest
    return p.extend String.ofList (Nat.le_succ _)
  | _ => none

/-! ### Keys -/

/-- The characters of a name that needs no quotes. -/
def isBareChar (c : Char) : Bool := isIdentChar c

/-- One name of a key. -/
def keyPart? (text : List Char) : Option (Parsed text String) :=
  match text with
  | [] => none
  | '"' :: rest => do
    let p ← basicString rest
    return p.extend String.ofList (Nat.le_succ _)
  | '\'' :: rest => do
    let p ← literalString rest
    return p.extend String.ofList (Nat.le_succ _)
  | c :: rest =>
    if isBareChar c then
      some ⟨String.ofList (c :: rest.takeWhile isBareChar), rest.dropWhile isBareChar, by
        have := length_dropWhile_le isBareChar rest
        simp only [List.length_cons]; omega⟩
    else none

/-- A key of names with points between them, and the blanks after it. -/
def key? (text : List Char) : Option (Parsed text Key) := do
  let first ← keyPart? text
  have h1 := first.shorter
  match h : skipGaps first.rest with
  | '.' :: rest =>
    have h2 : rest.length < first.rest.length := by
      have := length_skipGaps_le first.rest
      rw [h, List.length_cons] at this
      omega
    have h3 := length_skipGaps_le rest
    let more ← key? (skipGaps rest)
    return more.extend (fun k => ⟨first.value :: k.parents, k.last⟩) (by omega)
  | rest =>
    return ⟨⟨[], first.value⟩, rest, by
      have := length_skipGaps_le first.rest
      rw [h] at this
      omega⟩
termination_by text.length
decreasing_by omega

/-! ### Numbers -/

/-- A number as it is written. -/
inductive Numeral where
  /-- A whole number in decimal digits. -/
  | decimal (negative : Bool) (digits : List Char)
  /-- A whole number in another base. -/
  | based (n : Nat)
  /-- A decimal fraction: the digits before and after the point, and the power of ten. -/
  | fraction (negative : Bool) (whole part : List Char) (power : Int)
  deriving DecidableEq, Repr

/-- The value of a number. -/
def Numeral.value : Numeral → Except Failure Value
  | .decimal negative digits =>
    if Text.maxDigits < digits.length then .error (.longInteger digits.length)
    else
      let n : Int := Text.numberOf 10 digits
      .ok (.integer (if negative then -n else n))
  | .based n => .ok (.integer n)
  | .fraction negative whole part power =>
    .ok (.float (.ofDecimal negative (Text.numberOf 10 (whole ++ part)) (power - part.length)))

/-- The digits at the beginning of a text, each of which may have an underscore before it, and
the text after them. -/
def digitRun (p : Char → Bool) : List Char → List Char × List Char
  | '_' :: c :: cs =>
    if p c then
      let (digits, rest) := digitRun p cs
      (c :: digits, rest)
    else ([], '_' :: c :: cs)
  | c :: cs =>
    if p c then
      let (digits, rest) := digitRun p cs
      (c :: digits, rest)
    else ([], c :: cs)
  | [] => ([], [])

theorem length_digitRun_le (p : Char → Bool) (text : List Char) :
    (digitRun p text).2.length ≤ text.length := by
  fun_induction digitRun p text <;> simp_all <;> omega

/-- The digits of a text that begins with one. -/
def digits? (p : Char → Bool) (text : List Char) : Option (Parsed text (List Char)) :=
  match text with
  | c :: cs =>
    if p c then
      some ⟨c :: (digitRun p cs).1, (digitRun p cs).2, by
        have := length_digitRun_le p cs
        simp only [List.length_cons]; omega⟩
    else none
  | [] => none

/-- The digits of base two. -/
def isBinaryDigit (c : Char) : Bool := c == '0' || c == '1'

/-- The digits of base eight. -/
def isOctalDigit (c : Char) : Bool := '0' ≤ c && c ≤ '7'

/-- A whole number in base sixteen, two or eight. -/
def based? : (text : List Char) → Option (Parsed text Numeral)
  | '0' :: 'x' :: rest => do
    let p ← digits? isHexDigit rest
    return p.extend (fun ds => .based (Text.numberOf 16 ds))
      (by simp only [List.length_cons]; omega)
  | '0' :: 'b' :: rest => do
    let p ← digits? isBinaryDigit rest
    return p.extend (fun ds => .based (Text.numberOf 2 ds)) (by simp only [List.length_cons]; omega)
  | '0' :: 'o' :: rest => do
    let p ← digits? isOctalDigit rest
    return p.extend (fun ds => .based (Text.numberOf 8 ds)) (by simp only [List.length_cons]; omega)
  | _ => none

/-- The sign at the beginning of a text, if there is one, and the text after it. -/
def sign : List Char → Bool × List Char
  | '+' :: rest => (false, rest)
  | '-' :: rest => (true, rest)
  | text => (false, text)

theorem length_sign_le (text : List Char) : (sign text).2.length ≤ text.length := by
  unfold sign
  split <;> simp

/-- The digits of a whole number: a zero alone, or digits that do not begin with one. -/
def whole? (text : List Char) : Option (Parsed text (List Char)) :=
  match text with
  | '0' :: rest => some ⟨['0'], rest, Nat.lt_succ_self _⟩
  | c :: rest => digits? isDigit (c :: rest)
  | [] => none

/-- The digits behind a point, if there are any, and the text after them. -/
def part (text : List Char) : List Char × List Char :=
  match text with
  | '.' :: rest =>
    match digits? isDigit rest with
    | some p => (p.value, p.rest)
    | none => ([], text)
  | _ => ([], text)

theorem length_part_le (text : List Char) : (part text).2.length ≤ text.length := by
  unfold part
  split
  · next rest =>
    split
    · next p _ => have := p.shorter; simp only [List.length_cons]; omega
    · simp
  · simp

/-- The power of ten behind its mark, if there is one, and the text after it. -/
def power (text : List Char) : Option Int × List Char :=
  match text with
  | mark :: rest =>
    if mark = 'e' ∨ mark = 'E' then
      match digits? isDigit (sign rest).2 with
      | some p =>
        let n : Int := Text.numberOf 10 p.value
        (some (if (sign rest).1 then -n else n), p.rest)
      | none => (none, text)
    else (none, text)
  | [] => (none, text)

theorem length_power_le (text : List Char) : (power text).2.length ≤ text.length := by
  unfold power
  split
  · next mark rest =>
    split
    · split
      · next p _ =>
        have h1 := p.shorter
        have h2 := length_sign_le rest
        simp only [List.length_cons]; omega
      · simp
    · simp
  · simp

/-- A number in decimal digits. -/
def decimal? (text : List Char) : Option (Parsed text Numeral) := do
  let s := sign text
  have h1 : s.2.length ≤ text.length := length_sign_le text
  let w ← whole? s.2
  have h2 := w.shorter
  let f := part w.rest
  have h3 : f.2.length ≤ w.rest.length := length_part_le w.rest
  let e := power f.2
  have h4 : e.2.length ≤ f.2.length := length_power_le f.2
  let n : Numeral :=
    if f.1.isEmpty ∧ e.1.isNone then .decimal s.1 w.value
    else .fraction s.1 w.value f.1 (e.1.getD 0)
  return ⟨n, e.2, by omega⟩

/-- A number with digits. -/
def numeral? (text : List Char) : Option (Parsed text Numeral) :=
  based? text <|> decimal? text

/-- The words for truth values and for the numbers without digits. -/
def word? : (text : List Char) → Option (Parsed text Value)
  | 't' :: 'r' :: 'u' :: 'e' :: rest =>
    some ⟨.boolean true, rest, by simp only [List.length_cons]; omega⟩
  | 'f' :: 'a' :: 'l' :: 's' :: 'e' :: rest =>
    some ⟨.boolean false, rest, by simp only [List.length_cons]; omega⟩
  | 'i' :: 'n' :: 'f' :: rest =>
    some ⟨.float (.infinite false), rest, by simp only [List.length_cons]; omega⟩
  | '+' :: 'i' :: 'n' :: 'f' :: rest =>
    some ⟨.float (.infinite false), rest, by simp only [List.length_cons]; omega⟩
  | '-' :: 'i' :: 'n' :: 'f' :: rest =>
    some ⟨.float (.infinite true), rest, by simp only [List.length_cons]; omega⟩
  | 'n' :: 'a' :: 'n' :: rest => some ⟨.float .nan, rest, by simp only [List.length_cons]; omega⟩
  | '+' :: 'n' :: 'a' :: 'n' :: rest =>
    some ⟨.float .nan, rest, by simp only [List.length_cons]; omega⟩
  | '-' :: 'n' :: 'a' :: 'n' :: rest =>
    some ⟨.float .nan, rest, by simp only [List.length_cons]; omega⟩
  | _ => none

/-! ### Dates and times -/

/-- A number of exactly two digits within bounds. -/
def twoDigits? (low high : Nat) (a b : Char) : Option Nat :=
  let n := Text.numberOf 10 [a, b]
  if isDigit a && isDigit b && low ≤ n && n ≤ high then some n else none

/-- The millionths of a second behind a point, if there are any, and the text after them.
Further digits are dropped. -/
def micros (text : List Char) : Nat × List Char :=
  match text with
  | '.' :: rest =>
    let digits := rest.takeWhile isDigit
    if digits.isEmpty then (0, text)
    else
      let six := digits.take 6
      (Text.numberOf 10 (six ++ List.replicate (6 - six.length) '0'), rest.dropWhile isDigit)
  | _ => (0, text)

theorem length_micros_le (text : List Char) : (micros text).2.length ≤ text.length := by
  unfold micros
  split
  · next rest =>
    dsimp only
    split
    · simp
    · have := length_dropWhile_le isDigit rest
      simp only [List.length_cons]; omega
  · simp

/-- A time of day. -/
def time? : (text : List Char) → Option (Parsed text Time)
  | a :: b :: ':' :: c :: d :: ':' :: e :: f :: rest => do
    let hour ← twoDigits? 0 23 a b
    let minute ← twoDigits? 0 59 c d
    let second ← twoDigits? 0 59 e f
    return ⟨⟨hour, minute, second, (micros rest).1⟩, (micros rest).2, by
      have := length_micros_le rest
      simp only [List.length_cons]; omega⟩
  | _ => none

/-- How far a clock is ahead of universal time, if that is given, and the text after it. -/
def clock (text : List Char) : Option Int × List Char :=
  match text with
  | 'Z' :: rest => (some 0, rest)
  | 'z' :: rest => (some 0, rest)
  | s :: a :: b :: ':' :: c :: d :: rest =>
    if s = '+' ∨ s = '-' then
      match twoDigits? 0 23 a b, twoDigits? 0 59 c d with
      | some hour, some minute =>
        let n : Int := 60 * hour + minute
        (some (if s = '-' then -n else n), rest)
      | _, _ => (none, text)
    else (none, text)
  | _ => (none, text)

theorem length_clock_le (text : List Char) : (clock text).2.length ≤ text.length := by
  unfold clock
  split
  · simp
  · simp
  · split
    · split
      · simp only [List.length_cons]; omega
      · simp
    · simp
  · simp

/-- A day of the calendar, valid or not. -/
def date? : (text : List Char) → Option (Parsed text Date)
  | a :: b :: c :: d :: '-' :: e :: f :: '-' :: g :: h :: rest => do
    let month ← twoDigits? 1 12 e f
    let day ← twoDigits? 1 31 g h
    if [a, b, c, d].all isDigit then
      return ⟨⟨Text.numberOf 10 [a, b, c, d], month, day⟩, rest,
        by simp only [List.length_cons]; omega⟩
    else none
  | _ => none

/-- A day, with a time behind a `T` or a space if one follows. -/
def dateTime? (text : List Char) : Option (Parsed text Value) := do
  let d ← date? text
  have h1 := d.shorter
  match h : d.rest with
  | mark :: rest =>
    if mark = 'T' ∨ mark = 't' ∨ mark = ' ' then
      match time? rest with
      | some t =>
        return ⟨.dateTime d.value t.value (clock t.rest).1, (clock t.rest).2, by
          have h2 := t.shorter
          have h3 := length_clock_le t.rest
          simp only [h, List.length_cons] at h1
          omega⟩
      | none => return d.extend .date (Nat.le_refl _)
    else return d.extend .date (Nat.le_refl _)
  | [] => return d.extend .date (Nat.le_refl _)

/-- Whether the day of a value is one of the calendar. -/
def Value.onCalendar : Value → Bool
  | .date d => d.isValid
  | .dateTime d _ _ => d.isValid
  | _ => true

/-- Something read, or the failure that the text is not TOML. -/
def orMalformed {α : Type} : Option α → Except Failure α
  | some a => .ok a
  | none => .error .malformed

/-- A value that holds no other values. A date that is not one of the calendar fails; what
begins like a date or a number but goes on otherwise is read as far as it goes. -/
def scalar (text : List Char) : Except Failure (Parsed text Value) :=
  if text.head? = some '"' ∨ text.head? = some '\'' then
    orMalformed ((string? text).map fun p => p.extend .string (Nat.le_refl _))
  else
    match dateTime? text, time? text, numeral? text with
    | some p, _, _ => if p.value.onCalendar then .ok p else .error .malformed
    | none, some p, _ => .ok (p.extend .time (Nat.le_refl _))
    | none, none, some p => do
      let v ← p.value.value
      return p.extend (fun _ => v) (Nat.le_refl _)
    | none, none, none => orMalformed (word? text)

end Stylesheet.Toml
