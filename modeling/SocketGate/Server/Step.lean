import SocketGate.Channel.Reader
import SocketGate.Channel.Writer
import SocketGate.Server.Sweep

/-!
# `SocketGate.Server.Step`: the tasks of a server

Every connection has a task that reads, and one that writes if it is a channel;
the sweeper is a task of its own. `Server.perform` is one step of one task, and
`none` if that task has to wait; the clock counts the step. Which task goes first
is decided elsewhere, so every order of steps is a run.
-/

set_option autoImplicit false

namespace SocketGate

open Http (Request)

/-- What can be done next. -/
inductive Task where
  | head (slot : Nat)
  | reply (slot : Nat)
  /-- Go on with a channel for one of the things its reader waits for. -/
  | read (slot : Nat) (wakeup : Wakeup)
  | write (slot : Nat)
  | tick
  deriving DecidableEq

namespace Server

variable {σ : Type}

/-- The answer to a request that goes to a service, or to none. -/
def answer (site : Site σ) (transport : Transport) (request : Request) : Connection :=
  match site.route request with
  | none => .replying transport .page (site.page request)
  | some service =>
    match Handshake.ofRequest? request with
    | .ok handshake => .replying transport (.upgrade request service) handshake.response
    | .error refusal => .replying transport (.refusal refusal) refusal.response

/-- Read the request head. A connection that ends before its first byte is over,
and nothing went wrong. -/
def readHead (site : Site σ) (transport : Transport) : Option Connection :=
  match Request.read transport.source with
  | none => none
  | some (outcome, source) =>
    let transport := { transport with source }
    some <| match outcome with
      | .error fault => .finished transport (.error (.io fault))
      | .ok none => .finished transport (.ok ())
      | .ok (some request) => answer site transport request

/-- The handshake is complete: a session begins. It is registered and announced,
and the application is told, before anything more is read. -/
def begin (site : Site σ) (server : Server σ) (slot : Nat) (transport : Transport)
    (request : Request) (service : Nat) : Server σ :=
  let number := server.issued + 1
  let id := site.newId number
  let channel := Channel.ofTransport transport id request.path site.config.limits server.now.time
  let server :=
    { server with issued := number }.setConnection slot (.live service channel.announce)
  -- The session may have been closed again by the time its channel starts.
  (deliver site (server.register id slot) slot .opened).modifyChannel slot Channel.start

/-- The answer has been written. -/
def finishReply (site : Site σ) (server : Server σ) (slot : Nat) (transport : Transport) :
    Reply → Server σ
  | .upgrade request service =>
    match transport.flush with
    | .ok () => begin site server slot transport request service
    | .error fault =>
      server.setConnection slot (Connection.failReply transport (.upgrade request service) fault)
  | .refusal refusal => server.setConnection slot (Connection.finishRefusal transport refusal)
  | .page => server.setConnection slot (Connection.finishPage transport)

/-- Go on with the answer to a request. -/
def writeReply (site : Site σ) (server : Server σ) (slot : Nat) (transport : Transport)
    (reply : Reply) (unsent : Bytes) : Option (Server σ) :=
  if unsent.isEmpty then some (finishReply site server slot transport reply)
  else if transport.isBlocked then none
  else match transport.write unsent with
    | .error fault =>
      some (server.setConnection slot (Connection.failReply transport reply fault))
    | .ok (unsent, transport) =>
      some (server.setConnection slot (.replying transport reply unsent))

/-- Go on with a channel, and tell the application what came of it. -/
def readChannel (site : Site σ) (server : Server σ) (slot service : Nat) (channel : Channel)
    (wakeup : Wakeup) : Option (Server σ) :=
  match channel.read server.now wakeup with
  | none => none
  | some (channel, none) => some (server.setConnection slot (.live service channel))
  | some (channel, some event) =>
    some (deliver site (server.setConnection slot (.live service channel)) slot event)

/-- What one step of a task does, beside being counted. -/
def attempt (site : Site σ) (server : Server σ) : Task → Option (Server σ)
  | .head slot =>
    match server.connections[slot]? with
    | some (.awaitingHead transport) => (readHead site transport).map (server.setConnection slot)
    | _ => none
  | .reply slot =>
    match server.connections[slot]? with
    | some (.replying transport reply unsent) =>
      writeReply site server slot transport reply unsent
    | _ => none
  | .read slot wakeup =>
    match server.connections[slot]? with
    | some (.live service channel) => readChannel site server slot service channel wakeup
    | _ => none
  | .write slot =>
    match server.connections[slot]? with
    | some (.live service channel) =>
      (channel.write server.now).map fun channel =>
        server.setConnection slot (.live service channel)
    | _ => none
  | .tick => server.tick site

/-- One step of a task. -/
def perform (site : Site σ) (server : Server σ) (task : Task) : Option (Server σ) :=
  (server.attempt site task).map fun server => { server with now := server.now.next }

end Server

end SocketGate
