import Stylesheet.Path
import Stylesheet.Text.Utf8
import Stylesheet.Uri.Authority

/-!
# URIs

Editors name a document by a URI: a scheme before a colon, an authority behind two slashes, and
a path, which a question mark or a number sign ends. In some schemes the last name of the path
has parameters behind a semicolon. Any octet may be written as a percent sign and two
hexadecimal digits; two URIs that differ only in this name the same document.
-/

namespace Stylesheet

/-- A URI, as far as it tells a file. Percent signs stand for themselves. -/
structure Uri where
  /-- The scheme, in lower case; empty if there is none. -/
  scheme : String
  /-- The authority. -/
  authority : List Char
  /-- The path without parameters. -/
  path : List Char
  deriving DecidableEq, Repr

namespace Uri

/-! ### Parts -/

/-- What a scheme may hold: letters, digits, plus and minus signs and points. -/
def isSchemeChar (c : Char) : Bool := isLetter c || isDigit c || ['+', '-', '.'].contains c

/-- The scheme of a text, in lower case, and what follows its colon. It begins with a letter. -/
def splitScheme (text : List Char) : String × List Char :=
  match Text.cut ':' text with
  | (first :: name, some rest) =>
    if isLetter first && name.all isSchemeChar then
      (String.ofList ((first :: name).map Char.toLower), rest)
    else ("", text)
  | _ => ("", text)

/-- Whether a character ends a path. -/
def endsPath (c : Char) : Bool := c == '?' || c == '#'

/-- The authority behind two slashes, and what follows it. -/
def splitAuthority : List Char → List Char × List Char
  | '/' :: '/' :: rest =>
    (rest.takeWhile fun c => !(c == '/' || endsPath c),
      rest.dropWhile fun c => !(c == '/' || endsPath c))
  | text => ([], text)

/-- The schemes whose paths have parameters. -/
def parameterSchemes : List String :=
  ["", "ftp", "hdl", "prospero", "http", "imap", "https", "shttp", "rtsp", "rtspu", "sip", "sips",
    "mms", "sftp", "tel"]

/-- A path without the parameters of its last name. -/
def withoutParameters (path : List Char) : List Char :=
  let last := Text.afterLast '/' path
  path.take (path.length - last.length) ++ (Text.cut ';' last).1

/-- A text without the control characters and spaces before it, and without tabs and ends of
lines, which mean nothing in a URI. -/
def trimmed (text : List Char) : List Char :=
  (text.dropWhile (· ≤ ' ')).filter fun c => c != '\t' && c != '\r' && c != '\n'

/-- Reads a URI. -/
def parse (text : String) : Except Fault Uri := do
  let (scheme, rest) := splitScheme (trimmed text.toList)
  let (authority, rest) := splitAuthority rest
  checkAuthority authority
  let path := rest.takeWhile fun c => !endsPath c
  let hasParameters := parameterSchemes.contains scheme
  return ⟨scheme, authority, if hasParameters then withoutParameters path else path⟩

/-! ### Octets -/

/-- The octets of a text in which a percent sign and two hexadecimal digits stand for one. -/
def octets : List Char → List UInt8
  | '%' :: a :: b :: rest =>
    if isHexDigit a && isHexDigit b then UInt8.ofNat (Text.numberOf 16 [a, b]) :: octets rest
    else Text.Utf8.encode ['%'] ++ octets (a :: b :: rest)
  | c :: rest => Text.Utf8.encode [c] ++ octets rest
  | [] => []

/-- The text that a part stands for. -/
def decoded (part : List Char) : List Char := Text.Utf8.decodeReplacing (octets part)

/-- What is common to all ways to write a URI. -/
def identity (text : String) : String := String.ofList (decoded text.toList)

/-! ### Files -/

/-- A path without the slash before the letter of a drive, which is written small. -/
def withoutDriveSlash : List Char → List Char
  | '/' :: drive :: ':' :: rest =>
    if isLetter drive then drive.toLower :: ':' :: rest else '/' :: drive :: ':' :: rest
  | path => path

/-- The path of the file that a URI names. In the scheme of files, the authority stands before
the path as if it were the name of a directory behind two slashes, and a drive may be named. -/
def filePath (u : Uri) : Path :=
  let authority := decoded u.authority
  let path := decoded u.path
  Path.ofString <| String.ofList <|
    if u.scheme = "file" then
      if authority ≠ [] ∧ path ≠ [] then '/' :: '/' :: (authority ++ path)
      else withoutDriveSlash path
    else path

end Uri

end Stylesheet
