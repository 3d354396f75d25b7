import TaggedRpc.Wire.Schema
import TaggedRpc.Wire.Tree
import TaggedRpc.Json.Parser
import TaggedRpc.Json.Printer
import TaggedRpc.Wire.Script
import TaggedRpc.Frame
import TaggedRpc.Packet.Context
import TaggedRpc.Packet.Basic
import TaggedRpc.Packet.RequestId
import TaggedRpc.Packet.ReturnCode
import TaggedRpc.Packet.Layout
import TaggedRpc.Digest.Text
import TaggedRpc.Endpoint.Reference
import TaggedRpc.Text.Duration
import TaggedRpc.Digest.Crc32
import TaggedRpc.Selection.Listed
import TaggedRpc.Selection.Ring
import TaggedRpc.Selection.Smooth
import TaggedRpc.Calls.Rendezvous
import TaggedRpc.Endpoint.Directory
import TaggedRpc.Endpoint.Health
import TaggedRpc.Endpoint.Cache
import TaggedRpc.Toml.Basic
import TaggedRpc.Toml.Lexeme
import TaggedRpc.Toml.Draft
import TaggedRpc.Toml.Parser
import TaggedRpc.Toml.Record
import TaggedRpc.Toml.Printer
import TaggedRpc.Config.Basic
import TaggedRpc.Config.Document
import TaggedRpc.Selection.HashKey
import TaggedRpc.Invocation
import TaggedRpc.Filter.Basic
import TaggedRpc.Filter.Stock
import TaggedRpc.Connection.Inbound
import TaggedRpc.Connection.Outbound
import TaggedRpc.Connection.Basic
import TaggedRpc.Adapter
import TaggedRpc.Manager.Alive
import TaggedRpc.Manager.Basic
import TaggedRpc.Selection.Selector
import TaggedRpc.Calls.InFlight
import TaggedRpc.Client.Servant
import TaggedRpc.Client.Basic
import TaggedRpc.Client.Call
import TaggedRpc.Text.Record
import TaggedRpc.Client.Description
import TaggedRpc.CommandLine.Form
import TaggedRpc.CommandLine.Command
import TaggedRpc.CommandLine.Help
import TaggedRpc.CommandLine.Report
import TaggedRpc.CommandLine.Inspection
import TaggedRpc.CommandLine.Ping
import TaggedRpc.CommandLine.Program
import TaggedRpc.Main
import TaggedRpc.Wire.Json
import TaggedRpc.Proofs.Bytes
import TaggedRpc.Proofs.Connection.Reassembly
import TaggedRpc.Proofs.Endpoint.Key
import TaggedRpc.Proofs.Endpoint.Text
import TaggedRpc.Proofs.Selection.RingStability
import TaggedRpc.Proofs.Wire.Erasure
import TaggedRpc.Proofs.Wire.Evolution
import TaggedRpc.Proofs.Wire.Integer
import TaggedRpc.Proofs.Wire.RoundTrip
import TaggedRpc.Proofs.Wire.Scalar
import TaggedRpc.Proofs.Wire.Skipping
import TaggedRpc.Proofs.Wire.Value
import TaggedRpc.Proofs.Wire.Yields
import TaggedRpc.Proofs.Wire.Anatomy
import TaggedRpc.Proofs.Wire.Failing
import TaggedRpc.Proofs.Wire.Widths
import TaggedRpc.Proofs.Wire.Operations
import TaggedRpc.Proofs.Wire.Loops
import TaggedRpc.Proofs.Wire.Safety
import TaggedRpc.Proofs.Wire.Refusal
import TaggedRpc.Proofs.Wire.Passage
import TaggedRpc.Proofs.Wire.Misses
import TaggedRpc.Proofs.Wire.Recovery
import TaggedRpc.Proofs.Packet.RoundTrip
import TaggedRpc.Proofs.Packet.Kinds
import TaggedRpc.Proofs.Calls.Pending
import TaggedRpc.Proofs.Calls.Completion
import TaggedRpc.Proofs.Calls.Contest
import TaggedRpc.Proofs.Calls.Blocking
import TaggedRpc.Proofs.Calls.Callback
import TaggedRpc.Proofs.Manager.Invariant
import TaggedRpc.Proofs.Selection.Supply
import TaggedRpc.Proofs.Selection.History
import TaggedRpc.Proofs.Manager.Pool
import TaggedRpc.Proofs.Manager.Interleaving
import TaggedRpc.Proofs.Manager.Solo
import TaggedRpc.Proofs.Manager.Availability
import TaggedRpc.Proofs.Manager.Publication
import TaggedRpc.Proofs.Manager.Eviction
import TaggedRpc.Proofs.Manager.Descriptor
import TaggedRpc.Proofs.Manager.Agreement
import TaggedRpc.Proofs.Manager.Wiring
import TaggedRpc.Proofs.Selection.Layout
import TaggedRpc.Proofs.Selection.Answering
import TaggedRpc.Proofs.Selection.Shares
import TaggedRpc.Proofs.Selection.MixedWeights
import TaggedRpc.Proofs.Selection.Smooth.Cycle
import TaggedRpc.Proofs.Selection.Representation
import TaggedRpc.Proofs.Selection.Rotation
import TaggedRpc.Proofs.Float.Half
import TaggedRpc.Proofs.Health.History
import TaggedRpc.Proofs.Health.Transitions
import TaggedRpc.Proofs.Health.Ratio
import TaggedRpc.Proofs.Health.Calm
import TaggedRpc.Proofs.Connection.Interleaving
import TaggedRpc.Proofs.Connection.Order
import TaggedRpc.Proofs.Connection.Closing
import TaggedRpc.Proofs.Calls.Interleaving
import TaggedRpc.Proofs.Calls.Settlement
import TaggedRpc.Proofs.Calls.Handover
import TaggedRpc.Proofs.Calls.Sweep
import TaggedRpc.Proofs.Calls.Admission
import TaggedRpc.Proofs.Filter.Behaviour
import TaggedRpc.Proofs.Calls.Offer
import TaggedRpc.Proofs.Client.Beside
import TaggedRpc.Proofs.Client.Events
import TaggedRpc.Proofs.Client.Aside
import TaggedRpc.Proofs.Client.Shutdown
import TaggedRpc.Proofs.Client.Lookup
import TaggedRpc.Proofs.Client.Pushes
import TaggedRpc.Proofs.Endpoint.Entries
import TaggedRpc.Proofs.Endpoint.Pinning
import TaggedRpc.Proofs.Packet.Ids
import TaggedRpc.Proofs.Digest.Folding
import TaggedRpc.Proofs.Filter.Nesting
import TaggedRpc.Proofs.Json.RoundTrip
import TaggedRpc.Proofs.Endpoint.Persistence
import TaggedRpc.Proofs.Text.Quoted
