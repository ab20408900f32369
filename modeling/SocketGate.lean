import SocketGate.Base64
import SocketGate.Bytes
import SocketGate.Channel.Basic
import SocketGate.Channel.Reader
import SocketGate.Channel.Sized
import SocketGate.Channel.Transport
import SocketGate.Channel.Writer
import SocketGate.Chat.Notice
import SocketGate.Chat.Request
import SocketGate.Chat.Room
import SocketGate.Config.Basic
import SocketGate.Config.File
import SocketGate.Decimal.Shortest
import SocketGate.Failure
import SocketGate.Frame.Basic
import SocketGate.Frame.CloseCode
import SocketGate.Frame.CloseReason
import SocketGate.Frame.Decoder
import SocketGate.Frame.Sized
import SocketGate.Frame.Violation
import SocketGate.Frame.Wire
import SocketGate.Handshake
import SocketGate.Http.Head
import SocketGate.Http.Request
import SocketGate.Http.Response
import SocketGate.IoFault
import SocketGate.Json.Cursor
import SocketGate.Json.Fault
import SocketGate.Json.Number
import SocketGate.Json.Scalar
import SocketGate.Json.Value
import SocketGate.Json.Writer
import SocketGate.Main
import SocketGate.Message.Assembler
import SocketGate.Message.Basic
import SocketGate.Moment
import SocketGate.Proofs.Base64
import SocketGate.Proofs.Channel.Callbacks
import SocketGate.Proofs.Channel.Fidelity
import SocketGate.Proofs.Channel.Outgoing
import SocketGate.Proofs.Channel.Pong
import SocketGate.Proofs.Channel.Reason
import SocketGate.Proofs.Channel.Rest
import SocketGate.Proofs.Channel.Sized
import SocketGate.Proofs.Channel.Truncation
import SocketGate.Proofs.Chat.Delivery
import SocketGate.Proofs.Chat.Names
import SocketGate.Proofs.Frame.Canonical
import SocketGate.Proofs.Frame.Clipping
import SocketGate.Proofs.Frame.Pieces
import SocketGate.Proofs.Frame.RoundTrip
import SocketGate.Proofs.Frame.Verdict
import SocketGate.Proofs.Handshake.Checks
import SocketGate.Proofs.Handshake.Indifference
import SocketGate.Proofs.Handshake.Key
import SocketGate.Proofs.Handshake.Response
import SocketGate.Proofs.Http.Extent
import SocketGate.Proofs.Http.Head
import SocketGate.Proofs.Http.Layout
import SocketGate.Proofs.Http.Line
import SocketGate.Proofs.Http.Response
import SocketGate.Proofs.Http.RoundTrip
import SocketGate.Proofs.Message.Fragments
import SocketGate.Proofs.Message.Origin
import SocketGate.Proofs.Message.Pieces
import SocketGate.Proofs.Server.Accounting
import SocketGate.Proofs.Server.Dispatch
import SocketGate.Proofs.Server.Echo
import SocketGate.Proofs.Server.Isolation
import SocketGate.Proofs.Server.Keepalive
import SocketGate.Proofs.Server.Registry
import SocketGate.Proofs.Server.Routing
import SocketGate.Proofs.Server.Sweep
import SocketGate.Proofs.Server.Tickers
import SocketGate.Proofs.Server.Timers
import SocketGate.Proofs.Server.Trace
import SocketGate.Proofs.Session.Sending
import SocketGate.Server.Basic
import SocketGate.Server.Clock
import SocketGate.Server.Connection
import SocketGate.Server.Patrol
import SocketGate.Server.Router
import SocketGate.Server.Schedule
import SocketGate.Server.Step
import SocketGate.Server.Sweep
import SocketGate.Service.Builtin
import SocketGate.Service.Script
import SocketGate.Session.Basic
import SocketGate.Session.Describe
import SocketGate.Session.Outbox
import SocketGate.Session.State
import SocketGate.Sha1
import SocketGate.Size
import SocketGate.Source
import SocketGate.Startup
import SocketGate.Text.Blank
import SocketGate.Text.Boundary
import SocketGate.Text.Hex
import SocketGate.Text.Printable
import SocketGate.Text.Quoted
import SocketGate.Text.Utf8
