import StreamMux.Fault
import StreamMux.Version
import StreamMux.StreamId
import StreamMux.Slab.Basic
import StreamMux.Stream.State
import StreamMux.Stream.QueueKind
import StreamMux.Stream.Basic
import StreamMux.Store.Basic
import StreamMux.Store.Entry
import StreamMux.Queue.Basic
import StreamMux.Queue.Drain
import StreamMux.Queue.Retain
import StreamMux.Text.Decimal
import StreamMux.Config.Basic
import StreamMux.Config.Parser
import StreamMux.Event.Basic
import StreamMux.Event.Observer
import StreamMux.Connection.Basic
import StreamMux.Connection.Operations
import StreamMux.Connection.Flush
import StreamMux.Connection.Run
import StreamMux.Simulation.Session
import StreamMux.Simulation.Command
import StreamMux.Main
import StreamMux.Proofs.Text.Lines
import StreamMux.Proofs.Text.Fields
import StreamMux.Proofs.Event.Log
import StreamMux.Proofs.Config.Valid
import StreamMux.Proofs.Stream.Credit
import StreamMux.Proofs.Slab.FreeList
import StreamMux.Proofs.Slab.Map
import StreamMux.Proofs.Slab.Program
import StreamMux.Proofs.Slab.Refines
import StreamMux.Proofs.Store.Sound
import StreamMux.Proofs.Store.Bijection
import StreamMux.Proofs.Store.Program
import StreamMux.Proofs.Store.Table
import StreamMux.Proofs.Store.Refines
import StreamMux.Proofs.Store.Change
import StreamMux.Proofs.Store.Reservations
import StreamMux.Proofs.Store.Entries
import StreamMux.Proofs.Queue.Chain
import StreamMux.Proofs.Queue.Operations
import StreamMux.Proofs.Queue.Filter
import StreamMux.Proofs.Queue.Fifo
import StreamMux.Proofs.Queue.Sole
import StreamMux.Proofs.Connection.Plain
import StreamMux.Proofs.Connection.Flags
import StreamMux.Proofs.Connection.Tracks
import StreamMux.Proofs.Connection.Refines
import StreamMux.Proofs.Connection.Reachable
import StreamMux.Proofs.Connection.Effects
import StreamMux.Proofs.Connection.Ledger
import StreamMux.Proofs.Connection.Alone
import StreamMux.Proofs.Connection.Orderly
import StreamMux.Proofs.Connection.View
import StreamMux.Proofs.Connection.Isolation
import StreamMux.Proofs.Connection.Lifecycle
import StreamMux.Proofs.Connection.Log
import StreamMux.Proofs.Connection.Tally
import StreamMux.Proofs.Connection.ReceiveCredit
import StreamMux.Proofs.Connection.Admission
import StreamMux.Proofs.Config.Grammar
import StreamMux.Proofs.Config.Meaning
import StreamMux.Proofs.Queue.Independence
import StreamMux.Proofs.Queue.Selection
import StreamMux.Proofs.Connection.Sending
import StreamMux.Proofs.Connection.Totals
import StreamMux.Proofs.StreamId.Succession
import StreamMux.Proofs.Simulation.Opening
import StreamMux.Proofs.Simulation.Payload
import StreamMux.Proofs.Simulation.Script
import StreamMux.Proofs.Simulation.Streams
import StreamMux.Proofs.Simulation.Transcript
import StreamMux.Proofs.Simulation.Outcome
import StreamMux.Proofs.Simulation.Command
import StreamMux.Proofs.Queue.Looped
import StreamMux.Proofs.Slab.Room
import StreamMux.Proofs.Connection.Dropped
import StreamMux.Proofs.Connection.Determined
import StreamMux.Proofs.Connection.Idempotent
import StreamMux.Proofs.Connection.Sights
import StreamMux.Proofs.Connection.Reads
import StreamMux.Proofs.Connection.Endings
import StreamMux.Proofs.Simulation.ExitCode
import StreamMux.Proofs.Queue.AnyLinks
import StreamMux.Proofs.Queue.Draining
import StreamMux.Proofs.Store.Walk
import StreamMux.Proofs.Config.Editing
import StreamMux.Proofs.Connection.Echo
import StreamMux.Proofs.Simulation.Echo
