import Stylesheet.Text.Digits
import Stylesheet.Text.Parts

/-!
# Network addresses

The two written forms of the address of a computer. One has four decimal numbers between
points. The other has eight groups of hexadecimal digits between colons; one run of zero groups
may be left out, the last two groups may be written in the first form, and a zone may stand
behind a percent sign.
-/

namespace Stylesheet.NetworkAddress

/-! ### Version 4 -/

/-- Whether a text is a number of one octet: up to 255, without leading zeros. -/
def isOctet (text : List Char) : Bool :=
  text.all isDigit && (text == ['0'] || text.head?.any (· != '0')) && text.length ≤ 3 &&
    Text.numberOf 10 text ≤ 255

/-- Whether a text is an address of four octets. -/
def isVersion4 (text : List Char) : Bool :=
  let octets := Text.parts '.' text
  octets.length == 4 && octets.all isOctet

/-! ### Version 6 -/

/-- Whether a text is a group: up to four hexadecimal digits. -/
def isGroup (text : List Char) : Bool := !text.isEmpty && text.length ≤ 4 && text.all isHexDigit

/-- The groups of an address without its zone. Four octets at the end count as two groups, whose
digits do not matter; octets that are none are left as they are, and no group. -/
def groups (text : List Char) : List (List Char) :=
  let parts := Text.parts ':' text
  match parts.getLast? with
  | some last => if isVersion4 last then parts.dropLast ++ [['0'], ['0']] else parts
  | none => parts

/-- The groups on one side of the gap; where the address begins or ends with the gap there are
none. -/
def besideGap (side : List (List Char)) : List (List Char) := if side = [[]] then [] else side

/-- Whether groups are those of an address. An empty group, other than the first and the last,
is the gap, which stands for at least one group. -/
def areGroups (all : List (List Char)) : Bool :=
  match all.tail.dropLast.findIdx? List.isEmpty with
  | some n =>
    let written := besideGap (all.take (n + 1)) ++ besideGap (all.drop (n + 2))
    written.length ≤ 7 && written.all isGroup
  | none => all.length == 8 && all.all isGroup

/-- Whether a text is an address of eight groups, perhaps with a zone. -/
def isVersion6 (text : List Char) : Bool :=
  match Text.cut '%' text with
  | (address, none) => areGroups (groups address)
  | (address, some zone) =>
    !zone.isEmpty && !zone.contains '%' && areGroups (groups address)

end Stylesheet.NetworkAddress
