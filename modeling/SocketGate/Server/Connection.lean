import SocketGate.Channel.Basic
import SocketGate.Http.Head

/-!
# `SocketGate.Server.Connection`: a connection from its first byte on

A connection first waits for a request head. The request is answered with bytes:
those that complete the opening handshake, those that refuse it, or a page. A
connection whose handshake is complete goes on as a channel, and every other one
is over.
-/

set_option autoImplicit false

namespace SocketGate

open Http (Request)

/-- What the answer to a request means. -/
inductive Reply where
  /-- It completes the handshake, and a session of a service begins. -/
  | upgrade (request : Request) (service : Nat)
  | refusal (refusal : Refusal)
  | page
  deriving DecidableEq

/-- A connection. -/
inductive Connection where
  /-- The request head is not complete. -/
  | awaitingHead (transport : Transport)
  /-- The request is being answered; these bytes are left to write. -/
  | replying (transport : Transport) (reply : Reply) (unsent : Bytes)
  /-- The connection carries a session of a service. -/
  | live (service : Nat) (channel : Channel)
  /-- Nothing happens any more. -/
  | finished (transport : Transport) (result : Except Failure Unit)

namespace Connection

/-- The byte stream under a connection. -/
def transport : Connection → Transport
  | awaitingHead transport => transport
  | replying transport _ _ => transport
  | live _ channel => channel.transport
  | finished transport _ => transport

/-- Change the byte stream under a connection. -/
def mapTransport (f : Transport → Transport) : Connection → Connection
  | awaitingHead transport => awaitingHead (f transport)
  | replying transport reply unsent => replying (f transport) reply unsent
  | live service channel => live service { channel with transport := f channel.transport }
  | finished transport result => finished (f transport) result

/-- How the request was dealt with, once it was. A session that has begun is a
success, however it ends. -/
def result? : Connection → Option (Except Failure Unit)
  | awaitingHead _ | replying .. => none
  | live .. => some (.ok ())
  | finished _ result => some result

/-- Whether nothing more will be sent or reported. -/
def isDone : Connection → Bool
  | awaitingHead _ | replying .. => false
  | live _ channel => channel.reader = .finished
  | finished .. => true

/-- The channel of a connection that has one. -/
def channel? : Connection → Option Channel
  | live _ channel => some channel
  | awaitingHead _ | replying .. | finished .. => none

/-- The answer could not be written. After that only a refusal still counts as
one; what was meant to complete a handshake is followed by a shutdown. -/
def failReply (transport : Transport) (reply : Reply) (fault : IoFault) : Connection :=
  match reply with
  | .upgrade .. => finished transport.shutdown.2 (.error (.io fault))
  | .refusal refusal => finished transport (.error (.handshake refusal))
  | .page => finished transport (.error (.io fault))

/-- A refusal has been written: flush it, and if that works, shut down. -/
def finishRefusal (transport : Transport) (refusal : Refusal) : Connection :=
  let transport :=
    match transport.flush with
    | .ok () => transport.shutdown.2
    | .error _ => transport
  finished transport (.error (.handshake refusal))

/-- A page has been written: shut down. -/
def finishPage (transport : Transport) : Connection :=
  let (result, transport) := transport.shutdown
  finished transport (result.mapError Failure.io)

end Connection

end SocketGate
