import Stylesheet.FileTree
import Stylesheet.Text.Newline
import Stylesheet.Text.Utf8

/-!
# Text files

A file of text holds UTF-8, and each of its lines may end in any of the three ways. Reading it
gives the characters with a line feed at each end of a line.
-/

namespace Stylesheet

/-- Why a file gives no text. -/
inductive TextFault where
  /-- It cannot be read. -/
  | file (fault : FileFault)
  /-- It is not UTF-8. -/
  | encoding (fault : Text.Utf8.Fault)
  deriving DecidableEq, Repr

/-- The wording of a fault on a path. -/
def TextFault.message (f : TextFault) (p : Path) : String :=
  match f with
  | .file fault => fault.message p
  | .encoding fault => fault.message

/-- The text of the file at a path. -/
def FileTree.readText (t : FileTree) (p : Path) : Except TextFault String :=
  match t.read p with
  | .error fault => .error (.file fault)
  | .ok octets =>
    match Text.Utf8.decode octets with
    | .error fault => .error (.encoding fault)
    | .ok text => .ok (String.ofList (Text.unified text))

end Stylesheet
