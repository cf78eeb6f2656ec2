import Stylesheet.Main
import Stylesheet.Session
import Stylesheet.Workspace
import Stylesheet.Proofs.Tiling
import Stylesheet.Proofs.Lookahead
import Stylesheet.Proofs.ModeScan
import Stylesheet.Proofs.RoundTrip
import Stylesheet.Proofs.Placement
import Stylesheet.Proofs.Restart
import Stylesheet.Proofs.Margin
import Stylesheet.Proofs.Recovery
import Stylesheet.Proofs.Concatenation
import Stylesheet.Proofs.Ledger
import Stylesheet.Proofs.Agreement
import Stylesheet.Proofs.Report
import Stylesheet.Proofs.Effects
import Stylesheet.Proofs.Publication
import Stylesheet.Proofs.JsonReader
import Stylesheet.Proofs.JsonDump
import Stylesheet.Proofs.TextDump
import Stylesheet.Proofs.Rendering
import Stylesheet.Proofs.Delimiters
import Stylesheet.Proofs.Undelimited
import Stylesheet.Proofs.Merging
import Stylesheet.Proofs.ExitCodes
import Stylesheet.Proofs.Summary
import Stylesheet.Proofs.Skipping
import Stylesheet.Proofs.CodeUnits
import Stylesheet.Proofs.Histogram
import Stylesheet.Proofs.Progress
