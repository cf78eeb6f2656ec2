import Stylesheet.Diagnostic
import Stylesheet.TextFile
import Stylesheet.Uri

/-!
# Workspaces

An editor opens documents and changes them. After each event the document's current text is
read, and its diagnostics are published. The text of an open document is the last one that the
editor told; any other document is read from the file that its URI names, and cannot be given
a text by a change. Two ways to write one URI mean the same document.
-/

namespace Stylesheet

/-- The open documents, each with its current text. -/
structure Workspace where
  /-- What is common to the URIs of a document, and its text; the first entry counts. -/
  documents : List (String × String)
  deriving DecidableEq, Repr

/-- What an editor tells. -/
inductive DocumentEvent where
  /-- A document is opened with a text. -/
  | opened (uri : String) (text : String)
  /-- A document's text is replaced by each of these in turn. -/
  | changed (uri : String) (texts : List String)
  deriving DecidableEq, Repr

/-- The document that an event is about. -/
def DocumentEvent.uri : DocumentEvent → String
  | .opened uri _ => uri
  | .changed uri _ => uri

/-- What is published after an event. -/
structure Notification where
  /-- The document. -/
  uri : String
  /-- Its diagnostics, which replace the earlier ones. -/
  diagnostics : List Diagnostic
  deriving DecidableEq, Repr

/-- Why nothing can be published after an event. -/
inductive DocumentFailure where
  /-- A document has no proper URI. -/
  | badUri (fault : Uri.Fault)
  /-- A document is to be changed that is not open. -/
  | notOpen (identity : String)
  /-- A document is not open, and its file gives no text. -/
  | unreadable (fault : TextFault) (path : Path)
  deriving DecidableEq, Repr

/-- The wording of a failure. -/
def DocumentFailure.message : DocumentFailure → String
  | .badUri fault => fault.message
  | .notOpen identity => Text.quoted identity
  | .unreadable fault path => fault.message path

namespace Workspace

/-- No document is open. -/
def empty : Workspace := ⟨[]⟩

/-- The current text of an open document. -/
def text? (w : Workspace) (uri : String) : Option String := w.documents.lookup (Uri.identity uri)

/-- Sets the current text of a document. -/
def store (w : Workspace) (uri text : String) : Workspace :=
  ⟨(Uri.identity uri, text) :: w.documents.filter (·.1 != Uri.identity uri)⟩

/-- The text of the file that a URI names. -/
def fileText (t : FileTree) (uri : String) : Except DocumentFailure String := do
  let u ← (Uri.parse uri).mapError .badUri
  (t.readText u.filePath).mapError (.unreadable · u.filePath)

/-- The text of a document: the current one if it is open, else that of its file. -/
def text (t : FileTree) (w : Workspace) (uri : String) : Except DocumentFailure String :=
  match w.text? uri with
  | some text => .ok text
  | none => fileText t uri

/-- The documents after an event. -/
def update (w : Workspace) : DocumentEvent → Except DocumentFailure Workspace
  | .opened uri text => ((Uri.parse uri).mapError .badUri).map fun _ => w.store uri text
  | .changed uri texts =>
    if (w.text? uri).isSome ∨ texts = [] then .ok (texts.foldl (fun v text => v.store uri text) w)
    else .error (.notOpen (Uri.identity uri))

/-- Takes in an event: what is published about the document it touched, and the documents after
it. -/
def handle (t : FileTree) (w : Workspace) (e : DocumentEvent) :
    Except DocumentFailure (Notification × Workspace) := do
  let w' ← w.update e
  let text ← w'.text t e.uri
  return (⟨e.uri, Diagnostic.ofText text⟩, w')

/-- Takes in events one after the other, up to the first failure. -/
def handleAll (t : FileTree) (w : Workspace) :
    List DocumentEvent → Except DocumentFailure (List Notification)
  | [] => .ok []
  | e :: es => do
    let (n, w') ← w.handle t e
    let ns ← w'.handleAll t es
    return n :: ns

/-- A stored text is the current one. -/
@[simp] theorem text?_store_self (w : Workspace) (uri text : String) :
    (w.store uri text).text? uri = some text := by
  simp [store, text?]

end Workspace

end Stylesheet
