import TxnCoord.Ambient.Adapter
import TxnCoord.Ambient.Store
import TxnCoord.Ambient.Unit
import TxnCoord.Config
import TxnCoord.Decimal.Shortest
import TxnCoord.Error
import TxnCoord.Fiber.Agenda
import TxnCoord.Fiber.Basic
import TxnCoord.Http.Wire
import TxnCoord.Json.Decode
import TxnCoord.Json.Print
import TxnCoord.Json.Reader
import TxnCoord.Json.Value
import TxnCoord.Manager.Begin
import TxnCoord.Manager.Scope
import TxnCoord.Peer
import TxnCoord.Recovery.Descriptor
import TxnCoord.Recovery.Files
import TxnCoord.Recovery.Memory
import TxnCoord.Recovery.Recover
import TxnCoord.Simulation.Encode
import TxnCoord.Simulation.Labels
import TxnCoord.Simulation.Request
import TxnCoord.Simulation.Session
import TxnCoord.Simulation.Snapshot
import TxnCoord.Simulation.Stateless
import TxnCoord.Simulation.Steps
import TxnCoord.Simulation.Stores
import TxnCoord.Statement
import TxnCoord.Text.Blank
import TxnCoord.Text.Digit
import TxnCoord.Text.Lowercase
import TxnCoord.Text.Numeral
import TxnCoord.Text.Printable
import TxnCoord.Text.Quoted
import TxnCoord.Time.Calendar
import TxnCoord.Time.MailDate
import TxnCoord.Time.Rfc3339
import TxnCoord.Transaction.DriverFault
import TxnCoord.Transaction.Handle
import TxnCoord.Transaction.Http
import TxnCoord.Transaction.Sequencer
import TxnCoord.Transaction.Session
import TxnCoord.Transaction.State
import TxnCoord.Uuid
import TxnCoord.Version
import TxnCoord.World.Basic
import TxnCoord.World.Host
import TxnCoord.World.State
import TxnCoord.Proofs.Fiber.Rules
import TxnCoord.Proofs.Fiber.Schedule
import TxnCoord.Proofs.World.Steps
import TxnCoord.Proofs.Transaction.Life
import TxnCoord.Proofs.Transaction.Finality
import TxnCoord.Proofs.Transaction.Tickets
import TxnCoord.Proofs.Transaction.Turns
import TxnCoord.Proofs.Transaction.TicketHistory
import TxnCoord.Proofs.Transaction.Failure
import TxnCoord.Proofs.Transaction.RolledBack
import TxnCoord.Proofs.World.Frame
import TxnCoord.Proofs.Transaction.Footprint
import TxnCoord.Proofs.Manager.Footprint
import TxnCoord.Proofs.Manager.Stacks
import TxnCoord.Proofs.Manager.Nesting
import TxnCoord.Proofs.Fiber.Alone
import TxnCoord.Proofs.Manager.Endings
import TxnCoord.Proofs.Manager.Requests
import TxnCoord.Proofs.Transaction.Guards
import TxnCoord.Proofs.Transaction.Runs
import TxnCoord.Proofs.Transaction.Unbegun
import TxnCoord.Proofs.Transaction.Addresses
import TxnCoord.Proofs.Transaction.Beginnings
import TxnCoord.Proofs.Recovery.Memory
import TxnCoord.Proofs.Json.Scalars
import TxnCoord.Proofs.Json.Shapes
import TxnCoord.Proofs.Uuid
import TxnCoord.Proofs.Time.Calendar
import TxnCoord.Proofs.Time.Rfc3339
import TxnCoord.Proofs.Recovery.Encoding
import TxnCoord.Proofs.Recovery.FileTree
import TxnCoord.Proofs.Recovery.Files
import TxnCoord.Proofs.Recovery.Pass
import TxnCoord.Proofs.Ambient.Votes
import TxnCoord.Proofs.Transaction.Sessions
import TxnCoord.Proofs.Json.Decoded
import TxnCoord.Proofs.Http.Verdicts
import TxnCoord.Proofs.World.Counts
import TxnCoord.Proofs.Transaction.Pending
import TxnCoord.Proofs.Transaction.KeepAlive
import TxnCoord.Proofs.Manager.TaskStacks
import TxnCoord.Proofs.Manager.Enlistment
import TxnCoord.Proofs.Json.Normal
import TxnCoord.Proofs.Config.Reload
import TxnCoord.Proofs.Version
import TxnCoord.Proofs.Transaction.Outgoing
import TxnCoord.Proofs.Manager.Joining
import TxnCoord.Proofs.Ambient.Completion
import TxnCoord.Proofs.Manager.Refused
