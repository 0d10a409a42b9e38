import PgMcp.Lib.Program
import PgMcp.Protocol
import PgMcp.Results
import PgMcp.Libpq.Connection
import PgMcp.Libpq.Response
import PgMcp.Libpq.Rounds
import PgMcp.Worker
import PgMcp.Libpq.Standing
import PgMcp.Worker.Settled
import PgMcp.Worker.Publication
import PgMcp.Worker.Inspection
import PgMcp.Worker.Snapshots
import PgMcp.Worker.Doubt
import PgMcp.Worker.Moves
import PgMcp.Worker.Lost
import PgMcp.Libpq.Provenance
import PgMcp.Config.Profiles
import PgMcp.Lib.Mutex
import PgMcp.Core.Registry
import PgMcp.Core.Dispatch
import PgMcp.Core.Server
import PgMcp.Core.Frames
import PgMcp.Core.Reservations
import PgMcp.Core.Progress
import PgMcp.Core.Limits
import PgMcp.Core.Admission
import PgMcp.Core.Workers
import PgMcp.Core.Shutdown
import PgMcp.Core.Cleanup
import PgMcp.Worker.Guidance
import PgMcp.Worker.Gate
import PgMcp.Core.Lifecycle
import PgMcp.Core.Stations
import PgMcp.Core.Accounting
import PgMcp.Core.Calls
import PgMcp.Core.Clients
import PgMcp.Core.Disposal
import PgMcp.Core.Report
import PgMcp.Worker.Fits
import PgMcp.Core.Serial
import PgMcp.Tools
import PgMcp.Core.Envelopes
import PgMcp.Lib.Checks
import PgMcp.Lib.Ordered
import PgMcp.Json.Size
import PgMcp.Schema.Assembly
import PgMcp.Schema.Budget
import PgMcp.Schema.Snapshots
import PgMcp.Schema.ServerCatalog
import PgMcp.Libpq.Retention
import PgMcp.Libpq.Stream
import PgMcp.Backend.Budget
import PgMcp.Lib.Total
import PgMcp.Libpq.Healthy
import PgMcp.Schema.Healthy
import PgMcp.Worker.RowOnly
import PgMcp.Core.Listing
import PgMcp.Core.Handles
import PgMcp.Backend.Validation
import PgMcp.Libpq.Draining
import PgMcp.Libpq.CallEnd
import PgMcp.Libpq.BusyFlag
import PgMcp.Json.Canonical
import PgMcp.Lib.Text
import PgMcp.Xtask.Checksums
import PgMcp.Xtask.Notes
import PgMcp.Xtask.Repository
import PgMcp.Xtask.Publish
import PgMcp.Protocol.Codec
import PgMcp.Protocol.Strict
import PgMcp.Lib.Codes
import PgMcp.Json.Text
import PgMcp.Protocol.Text
import PgMcp.Libpq.Startup
import PgMcp.Core.Opening
import PgMcp.Core.Replies
import PgMcp.Process.Start
import PgMcp.Process.Serving
import PgMcp.Lib.Guard
import PgMcp.Config.Command
import PgMcp.Tools.Arguments
import PgMcp.Core.Offers
import PgMcp.Lib.Timely
import PgMcp.Libpq.Truthful
import PgMcp.Backend.Truthful
import PgMcp.Worker.Truthful
import PgMcp.Lib.Unwinding
import PgMcp.Worker.Rounds
import PgMcp.Core.Shares
import PgMcp.Core.Isolation
