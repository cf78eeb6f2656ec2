import Stylesheet.NetworkAddress
import Stylesheet.Text.Quoted

/-!
# Authorities of URIs

The authority of a URI names a computer, perhaps with a user before an at sign and a number
behind a colon. Square brackets stand only around an address of the computer. Outside ASCII, a
character that is compatible with one of the delimiters of URIs is refused, so that nobody
mistakes one for the other.
-/

namespace Stylesheet.Uri

/-- Why a text is no URI. -/
inductive Fault where
  /-- Square brackets do not enclose the computer. -/
  | brackets
  /-- The brackets enclose an address of a later version that is malformed. -/
  | laterVersion
  /-- The brackets enclose an address that needs none. -/
  | version4
  /-- The brackets enclose no address. -/
  | noAddress (host : String)
  /-- The authority holds a character compatible with a delimiter. -/
  | delimiter (authority : String)
  deriving DecidableEq, Repr

/-- The wording of a fault. -/
def Fault.message : Fault → String
  | .brackets => "Invalid IPv6 URL"
  | .laterVersion => "IPvFuture address is invalid"
  | .version4 => "An IPv4 address cannot be in brackets"
  | .noAddress host => Text.quoted host ++ " does not appear to be an IPv4 or IPv6 address"
  | .delimiter authority =>
    "netloc '" ++ authority ++ "' contains invalid characters under NFKC normalization"

/-! ### Brackets -/

/-- Whether a text is an address of a later version: the letter v, hexadecimal digits, a point
and something more. -/
def isLaterVersion : List Char → Bool
  | 'v' :: rest =>
    match rest.takeWhile isHexDigit, rest.dropWhile isHexDigit with
    | _ :: _, '.' :: _ :: _ => true
    | _, _ => false
  | _ => false

/-- Checks the name of a computer that has to be an address. -/
def checkHost (host : List Char) : Except Fault Unit :=
  if host.head? = some 'v' then
    if isLaterVersion host then .ok () else .error .laterVersion
  else if NetworkAddress.isVersion4 host then .error .version4
  else if NetworkAddress.isVersion6 host then .ok ()
  else .error (.noAddress (String.ofList host))

/-- Checks an authority with brackets. Nothing stands before them but a user, and nothing behind
them but a number; a computer without brackets has to be an address all the same. -/
def checkBracketed (authority : List Char) : Except Fault Unit :=
  let computer := Text.afterLast '@' authority
  match Text.cut '[' computer with
  | (_, none) => checkHost (Text.cut ':' computer).1
  | (_ :: _, some _) => .error .brackets
  | ([], some rest) =>
    match Text.cut ']' rest with
    | (_, some (c :: _)) => if c = ':' then checkHost (Text.cut ']' rest).1 else .error .brackets
    | (host, _) => checkHost host

/-! ### Delimiters -/

/-- The characters outside ASCII whose compatibility decomposition holds a slash, a question
mark, a number sign, an at sign or a colon. -/
def delimiterLike : List Char :=
  ['\u2047', '\u2048', '\u2049', '\u2100', '\u2101', '\u2105', '\u2106', '\u2a74', '\ufe13',
    '\ufe16', '\ufe55', '\ufe56', '\ufe5f', '\ufe6b', '\uff03', '\uff0f', '\uff1a', '\uff1f',
    '\uff20']

/-! ### Both -/

/-- Checks an authority. Brackets come in pairs, and they are looked at first. -/
def checkAuthority (authority : List Char) : Except Fault Unit := do
  if authority.contains '[' != authority.contains ']' then throw .brackets
  if authority.contains '[' then checkBracketed authority
  if authority.any delimiterLike.contains then throw (.delimiter (String.ofList authority))

end Stylesheet.Uri
