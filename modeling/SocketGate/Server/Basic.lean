import SocketGate.Config.Basic
import SocketGate.Server.Connection
import SocketGate.Service.Script

/-!
# `SocketGate.Server.Basic`: servers

A server is its connections, the registry of its open sessions, the clock, and
the state of the application it serves. Connections are known by their slot, the
order in which they came. Whatever an application is told is written into a log
before the application reacts, and its reaction is carried out at once.

The registry gets a session when its handshake is complete, and loses it when
its close is reported or when a sweep expires it, whichever comes first.
-/

set_option autoImplicit false

namespace SocketGate

open Http (Request)

/-- What a server needs to know beside its state. -/
structure Site (σ : Type) where
  config : Config
  /-- The service a request goes to. -/
  route : Request → Option Nat
  /-- The page for a request that goes to no service. -/
  page : Request → Bytes
  /-- What the services do. -/
  application : Application σ
  /-- The id of a session by its number, counted from one. -/
  newId : Nat → SessionId

/-- A line of the log. -/
structure Occurrence where
  slot : Nat
  /-- The state of its session at that time. -/
  state : SessionState
  /-- Whether its session was in the registry at that time. -/
  registered : Bool
  event : Event

/-- The periodic sweep. -/
structure Sweeper where
  deadline : Nat
  since : Moment
  deriving DecidableEq

/-- A server with an application whose state has type `σ`. -/
structure Server (σ : Type) where
  services : σ
  now : Moment := {}
  connections : List Connection := []
  /-- The slots of the open sessions. -/
  registry : List (SessionId × Nat) := []
  /-- How many sessions have been begun. -/
  issued : Nat := 0
  /-- How many sweeps there were. -/
  sweeps : UInt64 := 0
  /-- The periodic sweep, if it is on. -/
  sweeper : Option Sweeper := none
  /-- What the application was told, first thing first. -/
  log : List Occurrence := []

namespace Server

variable {σ : Type}

/-! ### Connections -/

/-- The channel in a slot, if there is one. -/
def channel? (server : Server σ) (slot : Nat) : Option Channel :=
  server.connections[slot]?.bind Connection.channel?

/-- Put a connection into its slot. -/
def setConnection (server : Server σ) (slot : Nat) (connection : Connection) : Server σ :=
  { server with connections := server.connections.set slot connection }

/-- Change the connection in a slot. -/
def modifyConnection (server : Server σ) (slot : Nat) (f : Connection → Connection) :
    Server σ :=
  { server with connections := server.connections.modify slot f }

/-- Change the channel in a slot. -/
def modifyChannel (server : Server σ) (slot : Nat) (f : Channel → Channel) : Server σ :=
  server.modifyConnection slot fun
    | .live service channel => .live service (f channel)
    | connection => connection

/-- A peer connects. -/
def connect (server : Server σ) (transport : Transport) : Server σ :=
  { server with connections := server.connections ++ [.awaitingHead transport] }

/-- Take in a channel that was upgraded elsewhere. It is not registered. -/
def adopt (server : Server σ) (service : Nat) (channel : Channel) : Server σ :=
  { server with connections := server.connections ++ [.live service channel] }

/-- A step of the peer. -/
def applyPeer (server : Server σ) (slot : Nat) (step : PeerStep) : Server σ :=
  server.modifyConnection slot (·.mapTransport (·.apply step))

/-! ### The registry -/

/-- The slot of an open session. -/
def slotOf? (server : Server σ) (id : SessionId) : Option Nat :=
  (server.registry.find? (·.1 = id)).map (·.2)

/-- Whether a session is in the registry. -/
def isRegistered (server : Server σ) (id : SessionId) : Bool := (server.slotOf? id).isSome

/-- Enter a session, in place of an earlier one with the same id. -/
def register (server : Server σ) (id : SessionId) (slot : Nat) : Server σ :=
  { server with registry := server.registry.filter (·.1 ≠ id) ++ [(id, slot)] }

/-- Take a session out. -/
def deregister (server : Server σ) (id : SessionId) : Server σ :=
  { server with registry := server.registry.filter (·.1 ≠ id) }

/-! ### The application -/

/-- The application calls the session in a slot. -/
def call (server : Server σ) (slot : Nat) (request : Call) :
    Except SendRefusal Unit × Server σ :=
  match server.connections[slot]? with
  | some (.live service channel) =>
    let (answer, channel) := channel.call request
    (answer, server.setConnection slot (.live service channel))
  | _ => (.error .sessionClosed, server)

/-- Carry out a script. -/
def execute {α : Type} : Script α → Server σ → α × Server σ
  | .done value, server => (value, server)
  | .call slot request next, server =>
    let (answer, server) := server.call slot request
    execute (next answer) server

/-- The session in a slot as the application refers to it. -/
def handleOf (slot : Nat) (channel : Channel) : Handle :=
  ⟨slot, channel.session.id, channel.session.path⟩

/-- Tell the application about the session in a slot, and carry out what it does.
A session whose close is reported leaves the registry first. -/
def deliver (site : Site σ) (server : Server σ) (slot : Nat) (event : Event) : Server σ :=
  match server.connections[slot]? with
  | some (.live service channel) =>
    let server :=
      match event with
      | .closed _ => server.deregister channel.session.id
      | _ => server
    -- The line shows what the application would find: the state and the registry as they are now.
    let line := ⟨slot, channel.session.state, server.isRegistered channel.session.id, event⟩
    let server := { server with log := server.log ++ [line] }
    let (services, server) :=
      execute
        (site.application.react server.services service (handleOf slot channel) event) server
    { server with services }
  | _ => server

/-! ### What is collected from outside -/

/-- The log so far, and the server with an empty one. -/
def takeLog (server : Server σ) : List Occurrence × Server σ :=
  (server.log, { server with log := [] })

/-- The bytes each connection has sent since they were collected last. -/
def collect (server : Server σ) : List Bytes × Server σ :=
  (server.connections.map (·.transport.collect.1),
    { server with connections := server.connections.map (·.mapTransport (·.collect.2)) })

end Server

end SocketGate
