import Pinpoint.Main
import Pinpoint.Proofs.Coloring
import Pinpoint.Proofs.Drawing
import Pinpoint.Proofs.Highlighting
import Pinpoint.Proofs.LineForm
import Pinpoint.Proofs.Growth
import Pinpoint.Proofs.Markers
import Pinpoint.Proofs.Printout
import Pinpoint.Proofs.SharedPositions
import Pinpoint.Proofs.Requests
import Pinpoint.Proofs.Runs
import Pinpoint.Proofs.ConfigFailures
import Pinpoint.Proofs.Assembly
import Pinpoint.Proofs.MarkerColumns
import Pinpoint.Proofs.Regions
import Pinpoint.Proofs.WholeLines
import Pinpoint.Proofs.Settings
import Pinpoint.Proofs.Lookups
import Pinpoint.Proofs.Nearest
import Pinpoint.Proofs.Agreement
import Pinpoint.Proofs.Verbose
import Pinpoint.Proofs.Widths
import Pinpoint.Proofs.WrittenTexts
import Pinpoint.Proofs.LineEndings
