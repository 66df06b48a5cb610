import PageScript.Dashboard.Server
import PageScript.Main
import PageScript.Proofs.Load.Buildable
import PageScript.Proofs.Load.Conversion
import PageScript.Proofs.Load.Position
import PageScript.Proofs.Run.Accounting
import PageScript.Proofs.Run.Fresh
import PageScript.Proofs.Run.Launch
import PageScript.Proofs.Script.Written
import PageScript.Script.Text
import PageScript.Proofs.Surface.Rehearsal
import PageScript.Proofs.Surface.Signals
import PageScript.Proofs.Surface.Visit
import PageScript.Proofs.Json.Grammar
import PageScript.Proofs.Json.Passing
import PageScript.Proofs.Json.Shaped
import PageScript.Proofs.Script.Agreement
import PageScript.Proofs.Script.Entries
import PageScript.Proofs.Dashboard.Published
import PageScript.Proofs.Dashboard.Stream
import PageScript.Proofs.Dashboard.Requests
import PageScript.Proofs.Surface.Awaited
import PageScript.Proofs.Dashboard.Ports
import PageScript.Proofs.Number.Rounding
import PageScript.Proofs.Surface.Naps
import PageScript.Proofs.Command.Capture
import PageScript.Proofs.Command.Parameters
import PageScript.Proofs.Command.Saving
import PageScript.Proofs.Command.Registration
import PageScript.Proofs.Run.Coherence
import PageScript.Proofs.Settings.Environment
import PageScript.Proofs.Script.Stretches
