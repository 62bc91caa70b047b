import Introduction.OrderedMap
import Introduction.Bytes
import Introduction.Cbor.FloatFormat
import Introduction.Cbor.Item
import Introduction.Cbor.Head
import Introduction.Cbor.Reader
import Introduction.Value
import Introduction.Side
import Introduction.Identifier
import Introduction.Message.Kind
import Introduction.WireError
import Introduction.Dictionary.Key
import Introduction.Dictionary.Fields
import Introduction.Dictionary.Codec
import Introduction.Message.Basic
import Introduction.Notice
import Introduction.Notice.Line
import Introduction.Session.State
import Introduction.Session.Error
import Introduction.Session.LocalAction
import Introduction.Session.Basic
import Introduction.Session.Update
import Introduction.Session.Rules
import Introduction.Relay.Archive
import Introduction.Relay.Store
import Introduction.Relay.Outbox
import Introduction.Relay.Basic
import Introduction.Relay.Introducer
import Introduction.Simulation.ChaCha
import Introduction.Simulation.Choice
import Introduction.Simulation.Rate
import Introduction.Simulation.Clock
import Introduction.Simulation.Network
import Introduction.Simulation.Participant
import Introduction.Simulation.World
import Introduction.Simulation.Oracle
import Introduction.Simulation.Scenario
import Introduction.CommandLine.Decimal
import Introduction.CommandLine.Arguments
import Introduction.CommandLine.Report
import Introduction.Main
import Introduction.Proofs.Dictionary.Fields
import Introduction.Proofs.Message.Reading
import Introduction.Proofs.Message.Wire
import Introduction.Proofs.Cbor.Heads
import Introduction.Proofs.Session.Step
import Introduction.Proofs.Session.Run
import Introduction.Proofs.Session.Course
import Introduction.Proofs.Session.Impartial
import Introduction.Proofs.Session.Outgoing
import Introduction.Proofs.Session.Record
import Introduction.Proofs.Cbor.Floats
import Introduction.Proofs.OrderedMap
import Introduction.Proofs.Dictionary.RoundTrip
import Introduction.Proofs.Dictionary.Nesting
import Introduction.Proofs.Cbor.Consumption
import Introduction.Proofs.Cbor.Order
import Introduction.Proofs.Dictionary.Decoding
import Introduction.Proofs.Session.Storage
import Introduction.Proofs.Relay.Accounts
import Introduction.Proofs.Relay.Faults
import Introduction.Proofs.Relay.Reliable
import Introduction.Proofs.Simulation.Traffic
import Introduction.Proofs.Simulation.Contact
import Introduction.Proofs.Simulation.Conduct
import Introduction.Proofs.Simulation.Calls
import Introduction.Proofs.Simulation.Stage
import Introduction.Proofs.Simulation.Opening
import Introduction.Proofs.Simulation.Settling
import Introduction.Proofs.Simulation.Schedule
import Introduction.Proofs.Relay.Registry
import Introduction.Proofs.Relay.Runs
import Introduction.Proofs.Relay.Introducing
import Introduction.Proofs.Relay.Rivals
import Introduction.Proofs.Relay.GivenUp
import Introduction.Proofs.Relay.Progress
import Introduction.Proofs.Relay.Isolation
import Introduction.Proofs.Relay.Retention
import Introduction.Proofs.Relay.Deletion
import Introduction.Proofs.Session.Reception
import Introduction.Proofs.Simulation.Enacting
import Introduction.Proofs.Simulation.Twins
import Introduction.Proofs.Simulation.Forgetting
import Introduction.Proofs.CommandLine.Judgement
import Introduction.Proofs.Cbor.Openings
import Introduction.Proofs.Dictionary.Growth
import Introduction.Proofs.Dictionary.Unambiguous
import Introduction.Proofs.Dictionary.Reencoding
import Introduction.Proofs.Relay.Forwarding
import Introduction.Proofs.Message.Views
import Introduction.Proofs.Session.Interleaving
import Introduction.Proofs.Relay.Atomicity
import Introduction.Proofs.Simulation.Deliveries
import Introduction.Proofs.Simulation.Replies
