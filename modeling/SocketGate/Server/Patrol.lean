import SocketGate.Server.Sweep

/-!
# `SocketGate.Server.Patrol`: the tasks of the periodic sweep

Whoever turns the periodic sweep on spawns a task for it and keeps the token of
that task; whoever turns it off, or drops the dispatcher, cancels the token. The
task finds out when it gets its next turn. So a task that was cancelled may still
be there when the next one is spawned.

A task sets its ticker in its first turn, and then waits for two things: for a
tick, which makes it sweep, and for its token to be cancelled, which ends it. If
both have come it may go on with either. `Server.start`, `Server.stop` and
`Server.tickOver` are the same without the tasks: a server has one ticker, or none.
-/

set_option autoImplicit false

namespace SocketGate

namespace SweepTask

/-- How far a task has come. -/
inductive Stage where
  /-- It had no turn yet. -/
  | spawned
  /-- Its ticker is set. -/
  | ticking (sweeper : Sweeper)
  | ended
  deriving DecidableEq

/-- What a task whose ticker is set goes on with. -/
inductive Branch where
  /-- A tick: it sweeps over these sessions, in this order. -/
  | tick (ids : List SessionId)
  | cancellation
  deriving DecidableEq

end SweepTask

/-- A task of the periodic sweep. -/
structure SweepTask where
  stage : SweepTask.Stage := .spawned
  /-- Whether its token has been cancelled. -/
  cancelled : Bool := false
  deriving DecidableEq

/-- A server and the tasks of its periodic sweep. -/
structure Patrol (σ : Type) where
  server : Server σ
  /-- All tasks that were spawned, the first one first. -/
  tasks : List SweepTask := []
  /-- The place of the task whose token is kept, if one is. -/
  current : Option Nat := none

namespace Patrol

variable {σ : Type}

/-- The time on the clock. -/
def time (patrol : Patrol σ) : Nat := patrol.server.now.time

/-- Whether the periodic sweep is on. -/
def isRunning (patrol : Patrol σ) : Bool := patrol.current.isSome

/-- Turn the periodic sweep on. If it is on already, nothing changes. -/
def start (patrol : Patrol σ) : Patrol σ :=
  match patrol.current with
  | some _ => patrol
  | none => { patrol with tasks := patrol.tasks ++ [{}], current := some patrol.tasks.length }

/-- Turn the periodic sweep off. -/
def stop (patrol : Patrol σ) : Patrol σ :=
  match patrol.current with
  | none => patrol
  | some place =>
    { patrol with
      tasks := patrol.tasks.modify place fun task => { task with cancelled := true }
      current := none }

/-- A millisecond passes. -/
def wait (patrol : Patrol σ) : Patrol σ :=
  { patrol with server := { patrol.server with now := patrol.server.now.later 1 } }

/-- The task in a place comes to another stage. -/
def setStage (patrol : Patrol σ) (place : Nat) (stage : SweepTask.Stage) : Patrol σ :=
  { patrol with tasks := patrol.tasks.modify place fun task => { task with stage } }

/-- The task in a place has made a step, which left this server, and waits for this ticker. -/
def await (patrol : Patrol σ) (place : Nat) (server : Server σ) (sweeper : Sweeper) : Patrol σ :=
  { patrol with server := { server with now := server.now.next } }.setStage place (.ticking sweeper)

/-- The task in a place gets a turn. If its ticker is set, it goes on with one of the things
it waits for, provided that this has come. If it sweeps, the report is given too. -/
def turn (site : Site σ) (patrol : Patrol σ) (place : Nat) (branch : SweepTask.Branch) :
    Patrol σ × Option SweepReport :=
  match patrol.tasks[place]? with
  | none => (patrol, none)
  | some task =>
    match task.stage, branch with
    | .spawned, _ =>
      -- No tick can have come yet.
      if task.cancelled then (patrol.setStage place .ended, none)
      else
        let sweeper := Sweeper.after site.config patrol.server.now
        (patrol.await place patrol.server sweeper, none)
    | .ticking sweeper, .tick ids =>
      if sweeper.deadline ≤ patrol.time then
        let (server, report) := patrol.server.sweepOver site.config ids
        (patrol.await place server (sweeper.advance site.config server.now), some report)
      else (patrol, none)
    | .ticking _, .cancellation =>
      if task.cancelled then (patrol.setStage place .ended, none) else (patrol, none)
    | .ended, _ => (patrol, none)

end Patrol

end SocketGate
