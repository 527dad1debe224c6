import FibrePool.Command.Format
import FibrePool.Command.Query
import FibrePool.Command.Script
import FibrePool.Command.Shell
import FibrePool.Data.OrderedMap
import FibrePool.Decimal.Shortest
import FibrePool.Device.Id
import FibrePool.Device.Listing
import FibrePool.Device.Ranges
import FibrePool.Device.Record
import FibrePool.Device.Status
import FibrePool.Failure
import FibrePool.Gateway.Client
import FibrePool.Http.Answer
import FibrePool.Http.Exchange
import FibrePool.Http.MediaType
import FibrePool.Http.Message
import FibrePool.Http.Percent
import FibrePool.Http.Query
import FibrePool.Http.Service
import FibrePool.Json.Basic
import FibrePool.Json.Printer
import FibrePool.Json.Reader
import FibrePool.Json.Row
import FibrePool.Json.Token
import FibrePool.Main
import FibrePool.Metrics
import FibrePool.Net.SocketAddress
import FibrePool.Net.Url
import FibrePool.Operator.Options
import FibrePool.Operator.Serving
import FibrePool.Operator.Startup
import FibrePool.Pool.Event
import FibrePool.Pool.Operation
import FibrePool.Pool.Request
import FibrePool.Pool.Selection
import FibrePool.Pool.Statistics
import FibrePool.Pool.UsageChange
import FibrePool.Proofs.AllOrNothing
import FibrePool.Proofs.Alone
import FibrePool.Proofs.AttachCourse
import FibrePool.Proofs.Bodies
import FibrePool.Proofs.Candidates
import FibrePool.Proofs.Choosing
import FibrePool.Proofs.Chronicle
import FibrePool.Proofs.CompactText
import FibrePool.Proofs.Composition
import FibrePool.Proofs.Conduct
import FibrePool.Proofs.Confined
import FibrePool.Proofs.Deadlock
import FibrePool.Proofs.DetachCourse
import FibrePool.Proofs.DeviceNumbers
import FibrePool.Proofs.Digits
import FibrePool.Proofs.Directory
import FibrePool.Proofs.Escapes
import FibrePool.Proofs.Exclusive
import FibrePool.Proofs.GatewayPaths
import FibrePool.Proofs.Handover
import FibrePool.Proofs.Held
import FibrePool.Proofs.History
import FibrePool.Proofs.InstantText
import FibrePool.Proofs.Interleaving
import FibrePool.Proofs.JsonText
import FibrePool.Proofs.JsonTokens
import FibrePool.Proofs.Keeping
import FibrePool.Proofs.LabelledLines
import FibrePool.Proofs.LastWriter
import FibrePool.Proofs.LeastPaths
import FibrePool.Proofs.Ledger
import FibrePool.Proofs.ListingBlocks
import FibrePool.Proofs.Listings
import FibrePool.Proofs.LockOrder
import FibrePool.Proofs.Looking
import FibrePool.Proofs.Lookup
import FibrePool.Proofs.LowerCase
import FibrePool.Proofs.Mutex
import FibrePool.Proofs.Narration
import FibrePool.Proofs.OnePerPath
import FibrePool.Proofs.Orders
import FibrePool.Proofs.Outside
import FibrePool.Proofs.Override
import FibrePool.Proofs.Ownership
import FibrePool.Proofs.Pairing
import FibrePool.Proofs.Partition
import FibrePool.Proofs.Phrases
import FibrePool.Proofs.Pieces
import FibrePool.Proofs.Pinned
import FibrePool.Proofs.PoolHistory
import FibrePool.Proofs.PrintedListings
import FibrePool.Proofs.Queues
import FibrePool.Proofs.RangeCodec
import FibrePool.Proofs.RangeGrammar
import FibrePool.Proofs.Reacquisition
import FibrePool.Proofs.Reconciliation
import FibrePool.Proofs.RecordSound
import FibrePool.Proofs.RecordStep
import FibrePool.Proofs.Redundancy
import FibrePool.Proofs.Registrations
import FibrePool.Proofs.Reload
import FibrePool.Proofs.Reordering
import FibrePool.Proofs.Resolution
import FibrePool.Proofs.Restitution
import FibrePool.Proofs.Resubmission
import FibrePool.Proofs.Reversal
import FibrePool.Proofs.RowCodec
import FibrePool.Proofs.Saving
import FibrePool.Proofs.Schedule
import FibrePool.Proofs.ShortestRanges
import FibrePool.Proofs.Solo
import FibrePool.Proofs.Structure
import FibrePool.Proofs.Sweep
import FibrePool.Proofs.TablesCodec
import FibrePool.Proofs.Taking
import FibrePool.Proofs.TemplateTables
import FibrePool.Proofs.TemplatesSound
import FibrePool.Proofs.Tenure
import FibrePool.Proofs.Trimming
import FibrePool.Proofs.Undisturbed
import FibrePool.Proofs.Unwinding
import FibrePool.Proofs.UrlPaths
import FibrePool.Proofs.WireRecords
import FibrePool.Settings.Basic
import FibrePool.Settings.File
import FibrePool.Store.FileSystem
import FibrePool.Store.Snapshot
import FibrePool.Store.Tables
import FibrePool.Store.Transaction
import FibrePool.Task.Collaborators
import FibrePool.Task.LockTable
import FibrePool.Task.NamedLocks
import FibrePool.Task.Program
import FibrePool.Task.Rehearsal
import FibrePool.Task.Scheduler
import FibrePool.Template.Basic
import FibrePool.Text.Blank
import FibrePool.Text.Case
import FibrePool.Text.CaseTable
import FibrePool.Text.HiddenTable
import FibrePool.Text.Numeral
import FibrePool.Text.Quoted
import FibrePool.Text.SystemError
import FibrePool.Text.Utf8
import FibrePool.Time.Instant
import FibrePool.Volume.Action
import FibrePool.Volume.Attach
import FibrePool.Volume.Connection
import FibrePool.Volume.Detach
import FibrePool.Volume.Dispatch
import FibrePool.Volume.Rollback
import FibrePool.Wire.Action
import FibrePool.Wire.Device
import FibrePool.Wire.Event
import FibrePool.Wire.Failure
import FibrePool.Wire.Report
import FibrePool.Wire.Settings
import FibrePool.Wire.Tables
import FibrePool.Wire.Template
import FibrePool.Wire.Volume
import FibrePool.Yaml.Cursor
import FibrePool.Yaml.Node
import FibrePool.Yaml.Scalar
import FibrePool.Yaml.Token
import FibrePool.Proofs.WireFormats
import FibrePool.Proofs.GatewayDelivery
