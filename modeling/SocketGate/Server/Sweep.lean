import SocketGate.Server.Basic

/-!
# `SocketGate.Server.Sweep`: the keepalive sweep

A sweep goes through the registry and looks at the sessions that are open. One
that left too many pings unanswered, or that was idle for too long, is expired:
it leaves the registry and is closed by force. Every other one is sent a ping
whose payload is the number of the sweep. The periodic sweep does this once in
every interval; a tick that comes late is followed by a whole interval.
-/

set_option autoImplicit false

namespace SocketGate

/-- What a sweep did. -/
structure SweepReport where
  pinged : List SessionId := []
  expired : List SessionId := []
  deriving DecidableEq

namespace Sweeper

/-- The sweeper whose next sweep is a whole interval from now. -/
def after (config : Config) (now : Moment) : Sweeper :=
  ⟨now.time + config.pingInterval.toNat, now⟩

/-- How many milliseconds late a tick may come and still count as one in time. -/
def tolerance : Nat := 5

/-- The sweeper after a tick. One in time keeps to its rhythm. -/
def advance (config : Config) (now : Moment) (sweeper : Sweeper) : Sweeper :=
  if sweeper.deadline + tolerance < now.time then after config now
  else ⟨sweeper.deadline + config.pingInterval.toNat, now⟩

end Sweeper

namespace Server

variable {σ : Type}

/-- Whether a session has to be expired. -/
def isUnresponsive (config : Config) (time : Nat) (session : Session) : Bool :=
  config.pingFailureThreshold ≤ session.missedPings ||
    decide (config.expiry.toNat < session.idle time)

/-- Expire the open session in a slot. -/
def expire (server : Server σ) (slot : Nat) (id : SessionId) : Server σ :=
  (server.deregister id).modifyChannel slot fun channel =>
    { channel with session := channel.session.forceClose CloseReason.expired }

/-- The sweep comes to one session. -/
def visit (config : Config) (payload : Bytes) (pass : Server σ × SweepReport)
    (id : SessionId) : Server σ × SweepReport :=
  let (server, report) := pass
  match server.slotOf? id with
  | none => pass
  | some slot =>
    match server.channel? slot with
    | none => pass
    | some channel =>
      if channel.session.state ≠ .opened then pass
      else if isUnresponsive config server.now.time channel.session then
        (server.expire slot id, { report with expired := report.expired ++ [id] })
      else
        -- A ping that finds no room is left out of the report, and the sweep goes on.
        let (queued, session) := channel.session.keepalive payload
        let server := server.modifyChannel slot fun channel => { channel with session }
        (server, if queued then { report with pinged := report.pinged ++ [id] } else report)

/-- Sweep over these sessions, in this order. -/
def sweepOver (config : Config) (server : Server σ) (ids : List SessionId) :
    Server σ × SweepReport :=
  let number := server.sweeps + 1
  ids.foldl (visit config (Bytes.ofNatBE 8 number.toNat)) ({ server with sweeps := number }, {})

/-- Sweep over all registered sessions. -/
def sweep (site : Site σ) (server : Server σ) : Server σ × SweepReport :=
  sweepOver site.config server (server.registry.map (·.1))

/-! ### The periodic sweep -/

/-- Turn the periodic sweep on, which is a step. If it is on already, nothing
changes. -/
def start (site : Site σ) (server : Server σ) : Server σ :=
  match server.sweeper with
  | some _ => server
  | none =>
    { server with
      sweeper := some (Sweeper.after site.config server.now)
      now := server.now.next }

/-- Turn the periodic sweep off. -/
def stop (server : Server σ) : Server σ := { server with sweeper := none }

/-- Sweep over these sessions, in this order, if it is time to. -/
def tickOver (site : Site σ) (server : Server σ) (ids : List SessionId) :
    Option (Server σ × SweepReport) :=
  match server.sweeper with
  | none => none
  | some sweeper =>
    if sweeper.deadline ≤ server.now.time then
      let (server, report) := sweepOver site.config server ids
      some ({ server with sweeper := some (sweeper.advance site.config server.now) }, report)
    else none

/-- Sweep over all registered sessions if it is time to. -/
def tick (site : Site σ) (server : Server σ) : Option (Server σ) :=
  (server.tickOver site (server.registry.map (·.1))).map (·.1)

end Server

end SocketGate
