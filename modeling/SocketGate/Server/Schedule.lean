import SocketGate.Server.Step

/-!
# `SocketGate.Server.Schedule`: first come, first served

Every connection has three activities: answering its request, writing for its
channel, and reading for it. The sweeper is one more. An activity that gets its
turn goes on until it has to wait. Those that can go on because of what it did,
and are not waiting for a turn yet, are put at the end of the queue: the writers
first, so a session that begins has its first frames written before it reads.

`Server.settle` gives turns until nobody can go on. It is one of the orders that
`Server.perform` allows.
-/

set_option autoImplicit false

namespace SocketGate

/-- Tasks that go on one after the other. -/
inductive Activity where
  | sweeper
  | writer (slot : Nat)
  | answerer (slot : Nat)
  | reader (slot : Nat)
  deriving DecidableEq

/-- The tasks of an activity, in the order in which they are tried. -/
def Activity.tasks : Activity → List Task
  | sweeper => [.tick]
  | writer slot => [.write slot]
  | answerer slot => [.head slot, .reply slot]
  | reader slot => Wakeup.all.map (.read slot)

namespace Server

variable {σ : Type}

/-! ### One turn -/

/-- The next step of an activity, if it can go on. -/
def next? (site : Site σ) (server : Server σ) (activity : Activity) : Option (Server σ) :=
  activity.tasks.findSome? (server.perform site)

/-- Go on with an activity for at most `fuel` steps. -/
def proceed (site : Site σ) (activity : Activity) : (fuel : Nat) → Server σ → Server σ
  | 0, server => server
  | fuel + 1, server =>
    match server.next? site activity with
    | none => server
    | some server => proceed site activity fuel server

/-- A bound on the steps that the connection in a slot can make in one turn. A
frame has two bytes at least, and an item of the outbox takes three steps; the
rest is for the states that a connection goes through. -/
def stepBound (server : Server σ) (slot : Nat) : Nat :=
  match server.connections[slot]? with
  | some (.live _ channel) =>
    channel.transport.source.bytes.length + channel.decoder.buffer.length +
      3 * channel.session.outbox.waiting.length + 16
  | some connection => connection.transport.source.bytes.length + 16
  | none => 0

/-- A bound on the steps of one turn. Ticks follow one another at once only while
they are less late than the tolerance. -/
def turnBound (server : Server σ) : Activity → Nat
  | .sweeper => Sweeper.tolerance + 2
  | .writer slot | .answerer slot | .reader slot => server.stepBound slot

/-- Go on with an activity until it has to wait. -/
def turn (site : Site σ) (server : Server σ) (activity : Activity) : Server σ :=
  proceed site activity (server.turnBound activity) server

/-! ### Turns -/

/-- Every activity, in the order in which they queue up. -/
def activities (server : Server σ) : List Activity :=
  let slots := List.range server.connections.length
  .sweeper :: (slots.map .writer ++ slots.map .answerer ++ slots.map .reader)

/-- The activities that can go on. -/
def ready (site : Site σ) (server : Server σ) : List Activity :=
  server.activities.filter fun activity => (server.next? site activity).isSome

/-- Give turns to the activities in the queue, and to those that join it, at most
`fuel` of them. -/
def serveQueue (site : Site σ) : (fuel : Nat) → List Activity → Server σ → Server σ
  | 0, _, server => server
  | _ + 1, [], server => server
  | fuel + 1, activity :: queue, server =>
    let server := server.turn site activity
    -- Whoever the turn has set to work queues up behind those that wait already.
    let joining := (server.ready site).filter fun activity => !queue.contains activity
    serveQueue site fuel (queue ++ joining) server

/-- A bound on the number of turns: a connection answers and reads in a few turns,
each of which can set every writer to work. -/
def queueBound (server : Server σ) : Nat :=
  let count := server.connections.length + 1
  8 * count * count + 8

/-- Give turns until nobody can go on, beginning with `first`. -/
def settleFrom (site : Site σ) (server : Server σ) (first : List Activity) : Server σ :=
  let joining := (server.ready site).filter fun activity => !first.contains activity
  serveQueue site server.queueBound (first ++ joining) server

/-- Give turns until nobody can go on. -/
def settle (site : Site σ) (server : Server σ) : Server σ :=
  server.settleFrom site []

end Server

end SocketGate
