import RemoteRun.Framing
import RemoteRun.Execution.SnapshotJson
import RemoteRun.Settings
import RemoteRun.Simulation.Calls
import RemoteRun.Simulation.Handlers
import RemoteRun.Simulation.Recorder
import RemoteRun.Connection.Basic
import RemoteRun.Simulation.Connecting
import RemoteRun.Command.Desk
import RemoteRun.Simulation.Dispatching
import RemoteRun.Simulation.ClientRun
import RemoteRun.Http.Address
import RemoteRun.Http.Exchange
import RemoteRun.Connection.Socket
import RemoteRun.Simulation.Server
import RemoteRun.Proofs.Execution.Report
import RemoteRun.Proofs.Execution.Run
import RemoteRun.Proofs.Execution.Bookkeeping
import RemoteRun.Proofs.Execution.Terminal
import RemoteRun.Proofs.Execution.Rejection
import RemoteRun.Proofs.Execution.Undated
import RemoteRun.Proofs.Execution.Reports
import RemoteRun.Proofs.Execution.Deferral
import RemoteRun.Proofs.Inbound.Gathering
import RemoteRun.Proofs.Inbound.Lifting
import RemoteRun.Proofs.Execution.Ledger
import RemoteRun.Proofs.Inbound.Precedence
import RemoteRun.Proofs.Execution.Trace
import RemoteRun.Proofs.Text.Utf8
import RemoteRun.Proofs.Framing.Chunks
import RemoteRun.Proofs.Framing.Stream
import RemoteRun.Proofs.Router.Calls
import RemoteRun.Proofs.Client.Following
import RemoteRun.Proofs.Connection.Run
import RemoteRun.Proofs.Connection.Supervision
import RemoteRun.Proofs.Connection.Usable
import RemoteRun.Proofs.Connection.Course
import RemoteRun.Proofs.Connection.Announcing
import RemoteRun.Proofs.Connection.Listening
import RemoteRun.Proofs.Connection.Conveyance
import RemoteRun.Proofs.Command.Cancelling
import RemoteRun.Proofs.Execution.Active
import RemoteRun.Proofs.Client.PromptScope
import RemoteRun.Client.Intake
import RemoteRun.Proofs.Execution.Aftermath
import RemoteRun.Proofs.Client.Isolation
import RemoteRun.Proofs.Connection.Reception
import RemoteRun.Proofs.Client.Forwarding
import RemoteRun.Proofs.Client.Inflow
import RemoteRun.Proofs.Inbound.Enveloping
import RemoteRun.Proofs.Command.Repeating
import RemoteRun.Proofs.Router.Delivery
import RemoteRun.Proofs.Client.Targeting
import RemoteRun.Proofs.Execution.Independence
import RemoteRun.Proofs.Prompt.Lifecycle
import RemoteRun.Proofs.Client.Overflow
import RemoteRun.Proofs.Http.Streaming
import RemoteRun.Proofs.Execution.Coherence
import RemoteRun.Proofs.Execution.Queue
import RemoteRun.Proofs.Client.Requesting
import RemoteRun.Proofs.Outbound
import RemoteRun.Proofs.Connection.Closing
import RemoteRun.Proofs.Execution.Totals
import RemoteRun.Proofs.Execution.Snapshots
import RemoteRun.Proofs.Inbound.Respelling
import RemoteRun.Proofs.Execution.Filing
