import EndpointAgent.Basic
import EndpointAgent.Config
import EndpointAgent.Decimal
import EndpointAgent.Disk
import EndpointAgent.Buffer
import EndpointAgent.Buffer.Accounting
import EndpointAgent.Buffer.Retention
import EndpointAgent.Logger
import EndpointAgent.Logger.Rotation
import EndpointAgent.Json.Utf8
import EndpointAgent.Json.Float64
import EndpointAgent.Json.Float64.ReadBack
import EndpointAgent.Json.Time
import EndpointAgent.Json.Encode
import EndpointAgent.Json.Decode
import EndpointAgent.Json.Number
import EndpointAgent.Json.Quote
import EndpointAgent.Sender
import EndpointAgent.Sender.Delivery
import EndpointAgent.Sender.Spill
import EndpointAgent.Config.Persist
import EndpointAgent.Identity
import EndpointAgent.Supervisor
import EndpointAgent.Supervisor.Startup
import EndpointAgent.Supervisor.Restart
import EndpointAgent.Retry
import EndpointAgent.Updater
import EndpointAgent.Updater.Install
import EndpointAgent.Tickers
import EndpointAgent.Scheduler
import EndpointAgent.Scheduler.Lifecycle
import EndpointAgent.Policy
import EndpointAgent.Scheduler.Governed
import EndpointAgent.Json.Reads
import EndpointAgent.Json.Compact
import EndpointAgent.Json.Time.ReadBack
import EndpointAgent.Sender.Replay
import EndpointAgent.Config.RoundTrip
import EndpointAgent.Supervisor.Persistence
import EndpointAgent.Buffer.Eviction
import EndpointAgent.Buffer.ReplayOrder
import EndpointAgent.Filepath
import EndpointAgent.Updater.TempFile
import EndpointAgent.Audit
import EndpointAgent.Audit.Framing
import EndpointAgent.Logger.FailedOpen
import EndpointAgent.FsTree
import EndpointAgent.FsTree.CleanRoot
import EndpointAgent.Audit.ReadBack
import EndpointAgent.Json.Struct
import EndpointAgent.MockServer
import EndpointAgent.MockServer.Registration
import EndpointAgent.FsTree.Crud
