import Stylesheet.Text.Layout

/-!
# UTF-8

Text files hold UTF-8. Decoding either gives all characters or stops at the first fault, which
knows the octets that do not fit: a first octet together with as many of its successors as are
still right.
-/

namespace Stylesheet.Text.Utf8

/-- Why octets are not UTF-8. -/
inductive Reason where
  /-- No character begins with this octet. -/
  | invalidStart
  /-- An octet does not go on with the character that was begun. -/
  | invalidContinuation
  /-- The octets end within a character. -/
  | unexpectedEnd
  deriving DecidableEq, Repr

/-- The wording of a reason. -/
def Reason.message : Reason → String
  | .invalidStart => "invalid start byte"
  | .invalidContinuation => "invalid continuation byte"
  | .unexpectedEnd => "unexpected end of data"

/-- The first place where octets are not UTF-8. -/
structure Fault where
  /-- How many octets lie before it. -/
  position : Nat
  /-- The octet that begins it. -/
  octet : UInt8
  /-- How many octets belong to it. -/
  length : Nat
  /-- What is wrong. -/
  reason : Reason
  deriving DecidableEq, Repr

/-- The wording of a fault: a single octet is shown, of several only the range. -/
def Fault.message (f : Fault) : String :=
  let place :=
    if f.length ≤ 1 then
      "byte 0x" ++ hexPadded 2 f.octet.toNat ++ " in position " ++ numeral f.position
    else
      "bytes in position " ++ numeral f.position ++ "-" ++ numeral (f.position + f.length - 1)
  "'utf-8' codec can't decode " ++ place ++ ": " ++ f.reason.message

/-! ### Encoding -/

/-- The octets of a text. -/
def encode (text : List Char) : List UInt8 := text.flatMap String.utf8EncodeChar

/-! ### Decoding -/

/-- What a first octet announces: how many octets follow, and the bounds of the next one. -/
structure Lead where
  /-- How many octets follow. -/
  count : Nat
  /-- The least value of the next octet. -/
  low : Nat
  /-- The greatest value of the next octet. -/
  high : Nat
  /-- The leading bits of the character's code. -/
  bits : Nat
  deriving DecidableEq, Repr

/-- The announcement of a first octet. -/
def Lead.of? (octet : UInt8) : Option Lead :=
  let n := octet.toNat
  if n < 0x80 then some ⟨0, 0x80, 0xbf, n⟩
  else if n < 0xc2 then none
  else if n < 0xe0 then some ⟨1, 0x80, 0xbf, n - 0xc0⟩
  else if n < 0xf0 then
    some ⟨2, if n = 0xe0 then 0xa0 else 0x80, if n = 0xed then 0x9f else 0xbf, n - 0xe0⟩
  else if n < 0xf5 then
    some ⟨3, if n = 0xf0 then 0x90 else 0x80, if n = 0xf4 then 0x8f else 0xbf, n - 0xf0⟩
  else none

/-- Whether an octet may stand after the second of a character. -/
def isTail (octet : UInt8) : Bool := 0x80 ≤ octet.toNat && octet.toNat ≤ 0xbf

/-- The octets behind a first one that go on with its character. -/
def Lead.tail (l : Lead) (rest : List UInt8) : List UInt8 :=
  match rest.take l.count with
  | [] => []
  | second :: more =>
    if l.low ≤ second.toNat && second.toNat ≤ l.high then second :: more.takeWhile isTail else []

/-- The character of a first octet and those that go on with it. -/
def Lead.char (l : Lead) (tail : List UInt8) : Char :=
  Char.ofNat (tail.foldl (fun n o => 64 * n + (o.toNat - 0x80)) l.bits)

/-- The characters of octets that begin at a position. -/
def decodeFrom (position : Nat) (octets : List UInt8) : Except Fault (List Char) :=
  match octets with
  | [] => .ok []
  | first :: rest =>
    match Lead.of? first with
    | none => .error ⟨position, first, 1, .invalidStart⟩
    | some l =>
      let tail := l.tail rest
      if tail.length = l.count then do
        let more ← decodeFrom (position + 1 + l.count) (rest.drop l.count)
        return l.char tail :: more
      else
        let reason := if tail.length = rest.length then .unexpectedEnd else .invalidContinuation
        .error ⟨position, first, 1 + tail.length, reason⟩
termination_by octets.length
decreasing_by simp only [List.length_drop, List.length_cons]; omega

/-- The characters of octets. -/
def decode (octets : List UInt8) : Except Fault (List Char) := decodeFrom 0 octets

/-- The characters of octets, where every fault becomes one replacement character. -/
def decodeReplacing (octets : List UInt8) : List Char :=
  match octets with
  | [] => []
  | first :: rest =>
    match Lead.of? first with
    | none => '\ufffd' :: decodeReplacing rest
    | some l =>
      let tail := l.tail rest
      if tail.length = l.count then l.char tail :: decodeReplacing (rest.drop l.count)
      else '\ufffd' :: decodeReplacing (rest.drop tail.length)
termination_by octets.length
decreasing_by all_goals simp only [List.length_drop, List.length_cons]; omega

end Stylesheet.Text.Utf8
