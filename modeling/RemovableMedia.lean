import RemovableMedia.Command
import RemovableMedia.Config
import RemovableMedia.Config.Reader
import RemovableMedia.Control.Conversation
import RemovableMedia.Control.Options
import RemovableMedia.Control.Report
import RemovableMedia.Control.Request
import RemovableMedia.Control.Supervision
import RemovableMedia.Device.Action
import RemovableMedia.Device.Event
import RemovableMedia.Device.Json
import RemovableMedia.Device.Kind
import RemovableMedia.Device.Record
import RemovableMedia.ErrorCode
import RemovableMedia.Files.FileTree
import RemovableMedia.Files.OsError
import RemovableMedia.Files.Path
import RemovableMedia.Files.Socket
import RemovableMedia.Json
import RemovableMedia.Json.Parser
import RemovableMedia.Json.Printer
import RemovableMedia.Json.Shape
import RemovableMedia.Line
import RemovableMedia.Line.Parser
import RemovableMedia.Main
import RemovableMedia.Message
import RemovableMedia.Message.Json
import RemovableMedia.Message.Parser
import RemovableMedia.Monitor.Basic
import RemovableMedia.Monitor.Queue
import RemovableMedia.Monitor.Script
import RemovableMedia.Monitor.Shadow
import RemovableMedia.Mount.Entry
import RemovableMedia.Mount.Filesystem
import RemovableMedia.Mount.Kernel
import RemovableMedia.Mount.Orchestrator
import RemovableMedia.Mount.Point
import RemovableMedia.Mount.Poller
import RemovableMedia.Mount.Request
import RemovableMedia.Mount.Service
import RemovableMedia.Proofs.Device.Record
import RemovableMedia.Proofs.Except
import RemovableMedia.Proofs.Keyed
import RemovableMedia.Proofs.Mirror.Basic
import RemovableMedia.Proofs.Mirror.Replay
import RemovableMedia.Proofs.Mirror.Stream
import RemovableMedia.Proofs.Monitor.Consumer
import RemovableMedia.Proofs.Monitor.Shadow
import RemovableMedia.Proofs.Mount.Host
import RemovableMedia.Proofs.Tree.Invariant
import RemovableMedia.Proofs.Tree.Lookup
import RemovableMedia.Proofs.Tree.Operations
import RemovableMedia.Server.Daemon
import RemovableMedia.Server.Dispatch
import RemovableMedia.Server.Frame
import RemovableMedia.Server.Loop
import RemovableMedia.Server.Peer
import RemovableMedia.Server.Registry
import RemovableMedia.Session.Basic
import RemovableMedia.Session.Exchange
import RemovableMedia.Text.Blank
import RemovableMedia.Text.Duration
import RemovableMedia.Text.Quoted
import RemovableMedia.Text.Split
import RemovableMedia.Text.Unprintable
import RemovableMedia.Text.Unsigned
import RemovableMedia.Text.Utf8
import RemovableMedia.Toml
import RemovableMedia.Toml.Parser
import RemovableMedia.Toml.Scalar
import RemovableMedia.Tree
import RemovableMedia.Udev.Classify
import RemovableMedia.Udev.Datagram
import RemovableMedia.Udev.Enumerate
import RemovableMedia.Udev.Properties
import RemovableMedia.Udev.Sysfs
import RemovableMedia.Proofs.Line.Grammar
import RemovableMedia.Proofs.Line.Refusal
import RemovableMedia.Proofs.Server.Frame
import RemovableMedia.Proofs.Command
import RemovableMedia.Proofs.Message
import RemovableMedia.Proofs.Server.Answer
import RemovableMedia.Proofs.Session.Exchange
import RemovableMedia.Proofs.Server.Loop
import RemovableMedia.Proofs.Server.Outbound
import RemovableMedia.Proofs.Message.Fidelity
import RemovableMedia.Proofs.Message.Settled
import RemovableMedia.Proofs.Server.Departure
import RemovableMedia.Proofs.Monitor.FanOut
import RemovableMedia.Proofs.Monitor.Admission
import RemovableMedia.Proofs.Monitor.Handover
import RemovableMedia.Proofs.Monitor.Script
import RemovableMedia.Proofs.Server.Chunking
import RemovableMedia.Proofs.Mount.Options
import RemovableMedia.Proofs.Mount.Kernel
import RemovableMedia.Proofs.Server.Effect
import RemovableMedia.Proofs.Server.Reconciled
import RemovableMedia.Proofs.Udev.Listing
import RemovableMedia.Proofs.Tree.Seed
import RemovableMedia.Proofs.Monitor.Startup
import RemovableMedia.Proofs.Server.Capacity
import RemovableMedia.Proofs.Server.Echo
import RemovableMedia.Proofs.Server.Listing
import RemovableMedia.Proofs.Json.Text
import RemovableMedia.Proofs.Json.Grammar
import RemovableMedia.Proofs.Json.Layout
import RemovableMedia.Proofs.Json.Shape
import RemovableMedia.Proofs.Json.Types
import RemovableMedia.Proofs.Text.Segment
import RemovableMedia.Proofs.Server.Extraction
import RemovableMedia.Proofs.Command.Grammar
import RemovableMedia.Proofs.Session.Notifications
import RemovableMedia.Proofs.Tree.Bare
import RemovableMedia.Proofs.Server.Batching
import RemovableMedia.Proofs.Files.Lookup
import RemovableMedia.Proofs.Tree.Drift
import RemovableMedia.Proofs.Tree.Queries
import RemovableMedia.Proofs.Files.Directories
import RemovableMedia.Proofs.Files.Path
import RemovableMedia.Proofs.Mount.Point
import RemovableMedia.Proofs.Mount.Decision
import RemovableMedia.Proofs.Mount.Undo
import RemovableMedia.Proofs.Tree.Repetition
import RemovableMedia.Proofs.Mount.Poweroff
import RemovableMedia.Proofs.Mount.Belief
import RemovableMedia.Proofs.Config.Defaults
import RemovableMedia.Proofs.Files.Inside
import RemovableMedia.Proofs.Mount.Removal
import RemovableMedia.Proofs.Tree.Visible
import RemovableMedia.Proofs.Tree.Locality
import RemovableMedia.Proofs.Udev.Removal
import RemovableMedia.Proofs.Udev.Datagram
import RemovableMedia.Proofs.Udev.Naming
