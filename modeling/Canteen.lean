import Canteen.Binary64
import Canteen.Order
import Canteen.Cart.Line
import Canteen.Cart.Desk
import Canteen.Cart.Keeper
import Canteen.Cart.Snapshot
import Canteen.Client.Link
import Canteen.Client.Shop
import Canteen.Kitchen
import Canteen.Config
import Canteen.Config.Document
import Canteen.Failure
import Canteen.Flow
import Canteen.Json.Number
import Canteen.Json.Printer
import Canteen.Json.Reader
import Canteen.Json.Value
import Canteen.Json.Written
import Canteen.Main
import Canteen.Mismatch
import Canteen.Notice
import Canteen.Payload.Menu
import Canteen.Payload.Order
import Canteen.Payload.Session
import Canteen.Proofs.Cart.Proper
import Canteen.Rehearsal.World
import Canteen.Rehearsal.Backroom
import Canteen.Rehearsal.Fiber
import Canteen.Rehearsal.Mock
import Canteen.Rehearsal.Run
import Canteen.Request
import Canteen.Store
import Canteen.Text
import Canteen.Toml.Document
import Canteen.Toml.Reader
import Canteen.Toml.Scalar
import Canteen.Toml.Table
import Canteen.Toml.Text
import Canteen.Toml.Value
import Canteen.Tour
import Canteen.Tracking.Poller
import Canteen.Tracking.State
import Canteen.Proofs.Cart.Holding
import Canteen.Proofs.Flow.Interleaved
import Canteen.Proofs.Client.Placement
import Canteen.Proofs.Cart.Persistence
import Canteen.Proofs.Client.Retry
import Canteen.Proofs.Tracking.Trail
import Canteen.Proofs.Tracking.Newest
import Canteen.Proofs.Tracking.Ending
import Canteen.Proofs.Client.Newcomers
import Canteen.Proofs.Tracking.Overlay
import Canteen.Proofs.Cart.Tally
import Canteen.Proofs.Cart.Restoring
import Canteen.Proofs.Flow.Together
import Canteen.Proofs.Client.Overlap
import Canteen.Proofs.Json.Spelling
import Canteen.Proofs.Json.RoundTrip
import Canteen.Proofs.Binary64.Exact
import Canteen.Proofs.Json.Precision
import Canteen.Proofs.Cart.NormalForm
import Canteen.Proofs.Cart.Restart
import Canteen.Proofs.Store.Content
import Canteen.Proofs.Flow.Storing
import Canteen.Proofs.Client.SigningIn
import Canteen.Proofs.Flow.Stored
import Canteen.Proofs.Client.Authorization
import Canteen.Proofs.Flow.Obliging
import Canteen.Proofs.Client.SignedIn
import Canteen.Proofs.Client.SigningOut
import Canteen.Proofs.Tracking.Schedule
import Canteen.Proofs.Rehearsal.Frame
import Canteen.Proofs.Rehearsal.Timing
import Canteen.Proofs.Rehearsal.Watched
import Canteen.Proofs.Kitchen.Progress
import Canteen.Proofs.Tracking.Display
import Canteen.Proofs.Cart.Reading
import Canteen.Proofs.Kitchen.Answers
import Canteen.Proofs.Client.Practice
import Canteen.Proofs.Cart.Total
import Canteen.Proofs.Config.Backend
import Canteen.Proofs.Json.Reading
import Canteen.Proofs.Payload.Readers
import Canteen.Proofs.Json.Members
import Canteen.Proofs.Payload.Form
import Canteen.Proofs.Payload.Menu
import Canteen.Proofs.Store.Calls
