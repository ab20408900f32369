import SocketGate.Server.Schedule

/-!
# `SocketGate.Server.Clock`: the passing of time

`Server.elapse` moves the clock. The timers that are due by then give turns to
their activities, in the order of their deadlines, and everything settles. Timers
with the same deadline go off in the order in which they were set.
-/

set_option autoImplicit false

namespace SocketGate

/-- A timer that is set. -/
structure Timer where
  /-- When it goes off. -/
  deadline : Nat
  since : Moment
  activity : Activity
  deriving DecidableEq

namespace Timer

/-- Whether one timer goes off no later than another: by deadline, and at the
same time the one that was set first. -/
def isBefore (a b : Timer) : Bool :=
  a.deadline < b.deadline || (a.deadline == b.deadline && a.since.isBefore b.since)

/-- Put a timer in front of the first one that it is before. -/
def insert (timer : Timer) : List Timer → List Timer
  | [] => [timer]
  | next :: later =>
    if timer.isBefore next then timer :: next :: later else next :: timer.insert later

/-- The timer of the periodic sweep. -/
def ofSweeper (sweeper : Sweeper) : Timer :=
  ⟨sweeper.deadline, sweeper.since, .sweeper⟩

/-- The timers of a channel: of the reader that gives the writer time, and of the
writer that gives the peer time. -/
def ofChannel (slot : Nat) (channel : Channel) : List Timer :=
  (match channel.reader with
    | .draining _ since deadline => [⟨deadline, since, .reader slot⟩]
    | _ => []) ++
  (match channel.writer with
    | .awaitingShutdown since deadline => [⟨deadline, since, .writer slot⟩]
    | _ => [])

end Timer

namespace Server

variable {σ : Type}

/-- All timers that are set. -/
def timers (server : Server σ) : List Timer :=
  (server.sweeper.map Timer.ofSweeper).toList ++
    server.connections.zipIdx.flatMap fun (connection, slot) =>
      (connection.channel?.map (Timer.ofChannel slot)).getD []

/-- The timers that are due, in the order in which they go off. -/
def dueTimers (server : Server σ) : List Timer :=
  (server.timers.filter (·.deadline ≤ server.now.time)).foldr Timer.insert []

/-- Time passes. The timers that are due go off in order, and everything settles.
Nothing else depends on the time. -/
def elapse (site : Site σ) (server : Server σ) (milliseconds : Nat) : Server σ :=
  let server := { server with now := server.now.later milliseconds }
  -- Without a timer that is due nobody can go on, since nobody could before.
  match server.dueTimers with
  | [] => server
  | due => server.settleFrom site (due.map (·.activity))

/-- Time passes in steps of one millisecond. -/
def advance (site : Site σ) (server : Server σ) : (milliseconds : Nat) → Server σ
  | 0 => server
  | milliseconds + 1 => advance site (server.elapse site 1) milliseconds

end Server

end SocketGate
