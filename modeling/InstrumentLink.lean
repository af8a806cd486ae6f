import InstrumentLink.Bench.Session
import InstrumentLink.Bytes.Fingerprint
import InstrumentLink.Bytes.Pattern
import InstrumentLink.Fault.Report
import InstrumentLink.Proofs.Link.Coherence
import InstrumentLink.Proofs.Link.Repetition
import InstrumentLink.Proofs.Stream.Delivery
import InstrumentLink.Stream.Script
import InstrumentLink.Proofs.Endpoint.SingleClient
import InstrumentLink.Proofs.Link.HostChange
import InstrumentLink.Proofs.Host.Within
import InstrumentLink.Proofs.Endpoint.Custody
import InstrumentLink.Proofs.Host.Watched
import InstrumentLink.Proofs.Host.Standing
import InstrumentLink.Proofs.Link.Custody
import InstrumentLink.Proofs.Program.Ownership
import InstrumentLink.Proofs.Host.Pipe
import InstrumentLink.Proofs.Loopback.Connection
import InstrumentLink.Proofs.Endpoint.Conversation
import InstrumentLink.Proofs.Endpoint.Action
import InstrumentLink.Proofs.Endpoint.Connectedness
import InstrumentLink.Proofs.Link.Tuning
import InstrumentLink.Proofs.Link.LiveChange
import InstrumentLink.Proofs.LinkConfig.Build
import InstrumentLink.Proofs.Json.Lexing
import InstrumentLink.Proofs.Json.Parsing
import InstrumentLink.Proofs.LinkConfig.Fields
import InstrumentLink.Proofs.LinkConfig.RoundTrip
import InstrumentLink.Proofs.Endpoint.BringUp
import InstrumentLink.Proofs.Stream.Offers
import InstrumentLink.Proofs.Endpoint.Transience
import InstrumentLink.Proofs.Program.Listening
import InstrumentLink.Proofs.Loopback.Ports
import InstrumentLink.Proofs.Program.BoundPort
import InstrumentLink.Proofs.Host.Attuned
import InstrumentLink.Proofs.Program.HandleMode
import InstrumentLink.Proofs.Program.BlockingMode
import InstrumentLink.Proofs.Stream.Reception
import InstrumentLink.Proofs.Endpoint.LineHistory
import InstrumentLink.Proofs.Endpoint.EmptyRead
import InstrumentLink.Proofs.Program.Roles
import InstrumentLink.Proofs.Endpoint.Dispatch
import InstrumentLink.Proofs.Json.Layout
import InstrumentLink.Proofs.Json.Escapes
import InstrumentLink.Proofs.Json.Scanning
import InstrumentLink.Proofs.LinkConfig.Members
import InstrumentLink.Proofs.LinkConfig.ObjectForm
import InstrumentLink.Proofs.LinkConfig.ArrayForm
import InstrumentLink.Proofs.LinkConfig.NumberFields
import InstrumentLink.Proofs.Stream.Passes
import InstrumentLink.Proofs.Program.SameChannel
