import SocketGate.Frame.Basic

/-!
# `SocketGate.Session.Outbox`: the queue between a session and its writer

Frames wait in the outbox until the writer takes them, first come first served.
The frames of one message enter together or not at all. Two places beyond the
limit are kept free for the close frame and for the request to shut down, so
neither of them is ever held up by messages.
-/

set_option autoImplicit false

namespace SocketGate

/-- Why something could not be sent. -/
inductive SendRefusal where
  | sessionClosed
  /-- The payload is too long for a control frame. -/
  | controlTooLarge (size : Nat)
  | queueFull
  deriving DecidableEq

/-- The wording of a refusal. -/
def SendRefusal.message : SendRefusal → String
  | .sessionClosed => "Session closed"
  | .controlTooLarge size => s!"control payload too large: {size} bytes"
  | .queueFull => "send queue full"

/-- Work for the writer. -/
inductive Outbound where
  | frame (frame : Frame)
  | shutdown
  deriving DecidableEq

/-- The queue of a session. -/
structure Outbox where
  /-- How many frames of messages, pings and pongs may wait. -/
  limit : Nat
  /-- What waits, first one first. -/
  waiting : List Outbound := []
  /-- Whether the writer still takes from the queue. -/
  attached : Bool := true
  deriving DecidableEq

namespace Outbox

/-- The places kept free for the close frame and the request to shut down. -/
def headroom : Nat := 2

/-- How many items fit in all. -/
def capacity (outbox : Outbox) : Nat := outbox.limit + headroom

/-- How many places are free. -/
def free (outbox : Outbox) : Nat := outbox.capacity - outbox.waiting.length

/-- Queue frames, all of them or none. -/
def push (outbox : Outbox) (frames : List Frame) : Except SendRefusal Outbox :=
  if !outbox.attached then .error .sessionClosed
  else if outbox.free < frames.length + headroom then .error .queueFull
  else .ok { outbox with waiting := outbox.waiting ++ frames.map .frame }

/-- Queue one item in any free place; without one it is dropped. -/
def put (outbox : Outbox) (item : Outbound) : Outbox :=
  if outbox.attached ∧ 0 < outbox.free then
    { outbox with waiting := outbox.waiting ++ [item] }
  else outbox

/-- The writer takes the first item. -/
def take? (outbox : Outbox) : Option (Outbound × Outbox) :=
  match outbox.waiting with
  | [] => none
  | item :: waiting => some (item, { outbox with waiting })

/-- The writer is gone, and what was waiting is lost. -/
def detach (outbox : Outbox) : Outbox :=
  { outbox with waiting := [], attached := false }

end Outbox

end SocketGate
