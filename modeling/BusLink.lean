import BusLink.Options.Document
import BusLink.Options.Overlay
import BusLink.Proofs.Retry.Rounds
import BusLink.Proofs.Retry.Stopping
import BusLink.Proofs.Retry.Budget
import BusLink.Proofs.Retry.Waits
import BusLink.Proofs.Retry.Tally
import BusLink.Rehearsal
import BusLink.Proofs.Chain
import BusLink.Proofs.Alike
import BusLink.Proofs.Handler.Courses
import BusLink.Proofs.Handler.Moves
import BusLink.Proofs.Handler.Program
import BusLink.Proofs.Handler.Running
import BusLink.Proofs.Handler.Ownership
import BusLink.Proofs.Handler.SessionLoss
import BusLink.Proofs.Handler.Faults
import BusLink.Proofs.Handler.Closing
import BusLink.Proofs.Handler.Sending
import BusLink.Proofs.Handler.Reopening
import BusLink.Proofs.Retry.Relaxed
import BusLink.Proofs.Handler.Timing
import BusLink.Proofs.Handler.LostLock
import BusLink.Proofs.Handler.Relocation
import BusLink.Proofs.Wording
import BusLink.Proofs.Retry.InStep
import BusLink.Proofs.Handler.Rerouting
import BusLink.Proofs.Number.Decimal
import BusLink.Proofs.Text.Form
import BusLink.Proofs.Text.Pieces
import BusLink.Proofs.Auth.Token
import BusLink.Proofs.Text.Address
import BusLink.Proofs.Auth.Grammar
import BusLink.Proofs.Auth.ReadyMade
import BusLink.Proofs.Auth.Rendering
import BusLink.Proofs.Auth.Secrecy
import BusLink.Proofs.Handler.Carrying
import BusLink.Proofs.Handler.Steady
import BusLink.Proofs.Handler.Lapsing
import BusLink.Proofs.Handler.Overruling
import BusLink.Proofs.Handler.Asking
import BusLink.Proofs.Retry.Counting
import BusLink.Proofs.Number.Extent
import BusLink.Proofs.Retry.Reports
import BusLink.Proofs.Retry.Backoff
import BusLink.Proofs.Retry.Delays
import BusLink.Proofs.Handler.Origin
import BusLink.Proofs.Handler.Spelling
import BusLink.Proofs.Options.Fields
import BusLink.Proofs.Options.Layers
import BusLink.Proofs.Options.Documents
import BusLink.Proofs.Auth.Rotation
