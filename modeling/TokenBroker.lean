import TokenBroker.Bytes.Hex
import TokenBroker.Bytes.LittleEndian
import TokenBroker.Client.Basic
import TokenBroker.Client.Error
import TokenBroker.Client.Remote
import TokenBroker.Client.Settings
import TokenBroker.CommandLine.Grammar
import TokenBroker.CommandLine.Report
import TokenBroker.Control.Arguments
import TokenBroker.Control.Help
import TokenBroker.Control.Program
import TokenBroker.Daemon.Arguments
import TokenBroker.Daemon.Dispatcher
import TokenBroker.Daemon.Handler
import TokenBroker.Daemon.Program
import TokenBroker.Daemon.Server
import TokenBroker.Daemon.Start
import TokenBroker.Decimal.Shortest
import TokenBroker.Endpoint.Basic
import TokenBroker.Endpoint.Host
import TokenBroker.Files.Access
import TokenBroker.Files.Error
import TokenBroker.Files.Path
import TokenBroker.Files.Step
import TokenBroker.Files.Tree
import TokenBroker.Files.Walk
import TokenBroker.Frame.Codec
import TokenBroker.Frame.Error
import TokenBroker.Identity.Key
import TokenBroker.Main
import TokenBroker.Metrics.Basic
import TokenBroker.Metrics.Exposition
import TokenBroker.Proofs.Client.Aftermath
import TokenBroker.Proofs.Client.Answers
import TokenBroker.Proofs.Client.Call
import TokenBroker.Proofs.Client.Conduct
import TokenBroker.Proofs.Client.Deadline
import TokenBroker.Proofs.Client.Dialogue
import TokenBroker.Proofs.Client.Direct
import TokenBroker.Proofs.Client.Likeness
import TokenBroker.Proofs.Client.Numbering
import TokenBroker.Proofs.Client.Recorder
import TokenBroker.Proofs.Client.Refusal
import TokenBroker.Proofs.Client.Transparency
import TokenBroker.Proofs.Control.Session
import TokenBroker.Proofs.Control.Spelling
import TokenBroker.Proofs.Control.Status
import TokenBroker.Proofs.Control.Visit
import TokenBroker.Proofs.Control.Words
import TokenBroker.Proofs.Daemon.Answers
import TokenBroker.Proofs.Daemon.Chronicle
import TokenBroker.Proofs.Daemon.Clients
import TokenBroker.Proofs.Daemon.Commands
import TokenBroker.Proofs.Daemon.Connections
import TokenBroker.Proofs.Daemon.Course
import TokenBroker.Proofs.Daemon.Cuts
import TokenBroker.Proofs.Daemon.Demands
import TokenBroker.Proofs.Daemon.Handler
import TokenBroker.Proofs.Daemon.Isolation
import TokenBroker.Proofs.Daemon.Lifetime
import TokenBroker.Proofs.Daemon.Numbering
import TokenBroker.Proofs.Daemon.Oversized
import TokenBroker.Proofs.Daemon.Pacing
import TokenBroker.Proofs.Daemon.Permits
import TokenBroker.Proofs.Daemon.Reference
import TokenBroker.Proofs.Daemon.Request
import TokenBroker.Proofs.Daemon.Roll
import TokenBroker.Proofs.Daemon.Shifts
import TokenBroker.Proofs.Daemon.Sizes
import TokenBroker.Proofs.Daemon.Stream
import TokenBroker.Proofs.Endpoint.Holding
import TokenBroker.Proofs.Endpoint.Host
import TokenBroker.Proofs.Endpoint.Namespaces
import TokenBroker.Proofs.Endpoint.Sparing
import TokenBroker.Proofs.Files.Contents
import TokenBroker.Proofs.Files.Lookup
import TokenBroker.Proofs.Files.Parents
import TokenBroker.Proofs.Files.Paths
import TokenBroker.Proofs.Files.Sockets
import TokenBroker.Proofs.Files.WellFormed
import TokenBroker.Proofs.Files.Writing
import TokenBroker.Proofs.Frame.Deadline
import TokenBroker.Proofs.Frame.Exchange
import TokenBroker.Proofs.Frame.Lengths
import TokenBroker.Proofs.Identity.Keys
import TokenBroker.Proofs.Metrics.Balance
import TokenBroker.Proofs.Metrics.Counts
import TokenBroker.Proofs.Record.Checksum
import TokenBroker.Proofs.Record.Damage
import TokenBroker.Proofs.Record.Readable
import TokenBroker.Proofs.Record.RoundTrip
import TokenBroker.Proofs.Record.Truncation
import TokenBroker.Proofs.Registry.Confinement
import TokenBroker.Proofs.Registry.Custody
import TokenBroker.Proofs.Registry.Housekeeping
import TokenBroker.Proofs.Registry.Interruptions
import TokenBroker.Proofs.Registry.Isolation
import TokenBroker.Proofs.Registry.Limits
import TokenBroker.Proofs.Registry.Modes
import TokenBroker.Proofs.Registry.Opening
import TokenBroker.Proofs.Registry.Operations
import TokenBroker.Proofs.Registry.Refinement
import TokenBroker.Proofs.Registry.Sweeping
import TokenBroker.Proofs.Sequence.Alternation
import TokenBroker.Proofs.Sequence.Equivariance
import TokenBroker.Proofs.Settings.Overlays
import TokenBroker.Proofs.Simulation.Deployment
import TokenBroker.Proofs.Simulation.Liveness
import TokenBroker.Proofs.Simulation.Parting
import TokenBroker.Proofs.Simulation.Pipe
import TokenBroker.Proofs.Simulation.Remote
import TokenBroker.Proofs.Stream.Delivery
import TokenBroker.Proofs.Stream.Line
import TokenBroker.Proofs.Stream.Readiness
import TokenBroker.Proofs.Stream.Reset
import TokenBroker.Proofs.Stream.Scatter
import TokenBroker.Proofs.Stream.Write
import TokenBroker.Proofs.Text.Encoding
import TokenBroker.Record.Archive
import TokenBroker.Record.Basic
import TokenBroker.Record.Checksum
import TokenBroker.Registry.Basic
import TokenBroker.Registry.Error
import TokenBroker.Sequence.Observer
import TokenBroker.Sequence.Tracker
import TokenBroker.Settings.Address
import TokenBroker.Settings.Client
import TokenBroker.Settings.Daemon
import TokenBroker.Settings.Field
import TokenBroker.Settings.Load
import TokenBroker.Simulation.Caller
import TokenBroker.Simulation.Damage
import TokenBroker.Simulation.Deployment
import TokenBroker.Simulation.Files
import TokenBroker.Simulation.Link
import TokenBroker.Simulation.Pipe
import TokenBroker.Simulation.ScriptedPeer
import TokenBroker.Stream.Buffer
import TokenBroker.Stream.Error
import TokenBroker.Stream.Line
import TokenBroker.Stream.Outlet
import TokenBroker.Stream.Socket
import TokenBroker.Stream.Write
import TokenBroker.Text.Blank
import TokenBroker.Text.Quoted
import TokenBroker.Text.Unprintable
import TokenBroker.Toml.Document
import TokenBroker.Toml.Scalar
import TokenBroker.Toml.Text
import TokenBroker.Toml.Value
import TokenBroker.Wire.Command
import TokenBroker.Wire.Header
import TokenBroker.Wire.Validation
