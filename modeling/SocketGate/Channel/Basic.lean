import SocketGate.Channel.Transport
import SocketGate.Failure
import SocketGate.Frame.Decoder
import SocketGate.Message.Assembler
import SocketGate.Moment
import SocketGate.Session.Basic

/-!
# `SocketGate.Channel.Basic`: one upgraded connection

A channel is a session together with its transport and the two activities that
serve it: the reader, which turns bytes into events, and the writer, which turns
the frames of the outbox into bytes. This module holds the states of the two;
`SocketGate.Channel.Reader` and `SocketGate.Channel.Writer` hold their steps.
-/

set_option autoImplicit false

namespace SocketGate

/-- What an application is told about a session. -/
inductive Event where
  | opened
  | received (message : Message)
  /-- Something went wrong. -/
  | failed (failure : Failure)
  /-- The connection is gone. -/
  | closed (reason : CloseReason)
  deriving DecidableEq

/-- What the reader is doing. -/
inductive Reader where
  /-- It has not been started. -/
  | created
  | reading
  | leaving (reason : CloseReason)
  /-- It gives the writer time to finish. -/
  | draining (reason : CloseReason) (since : Moment) (deadline : Nat)
  | finished
  deriving DecidableEq

/-- What the writer is doing. -/
inductive Writer where
  /-- It waits for an item of the outbox. -/
  | idle
  /-- It writes a frame, of which these bytes are left. -/
  | sending (unsent : Bytes) (isClose : Bool)
  /-- The close frame is out; it waits for the request to shut down. -/
  | awaitingShutdown (since : Moment) (deadline : Nat)
  /-- It flushes and shuts the sending side down. -/
  | finishing
  /-- It is done, or has failed. -/
  | ended (result : Except Failure Unit)
  /-- It was stopped. -/
  | aborted

/-- One upgraded connection. -/
structure Channel where
  session : Session
  transport : Transport
  /-- The frames that come in. -/
  decoder : Decoder
  /-- The messages that come in. -/
  assembler : Assembler
  /-- What the reader is doing. -/
  reader : Reader := .created
  /-- What the writer is doing. -/
  writer : Writer := .idle
  /-- How long either side of a closing handshake is waited for. -/
  closeTimeout : Nat

/-- The limits of a channel. -/
structure Limits where
  frame : Nat
  message : Nat
  /-- How many frames may wait for the writer. -/
  queue : Nat
  /-- How long either side of a closing handshake is waited for. -/
  closeTimeout : Nat
  deriving DecidableEq

namespace Channel

/-- The channel of a connection whose opening handshake has just been
completed. -/
def ofTransport (transport : Transport) (id : SessionId) (path : String) (limits : Limits)
    (now : Nat) : Channel where
  session := Session.fresh id path limits.frame limits.queue now
  transport := transport
  decoder := { role := .server, limit := limits.frame }
  assembler := { limit := limits.message }
  closeTimeout := limits.closeTimeout

/-- Announce the session. -/
def announce (channel : Channel) : Channel :=
  { channel with session := channel.session.announce }

/-- Start the reader. -/
def start (channel : Channel) : Channel :=
  match channel.reader with
  | .created => { channel with reader := .reading }
  | _ => channel

/-- A call of the application. -/
def call (channel : Channel) (call : Call) : Except SendRefusal Unit × Channel :=
  let (result, session) := channel.session.call call
  (result, { channel with session })

/-- A step of the peer. -/
def apply (channel : Channel) (step : PeerStep) : Channel :=
  { channel with transport := channel.transport.apply step }

end Channel

end SocketGate
