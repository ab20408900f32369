import SocketGate.Channel.Basic

/-!
# `SocketGate.Service.Script`: what an application does in a callback

An application reacts to an event by calling sessions and going on with what
they answer. A script is such a reaction as data: it ends with a value, or it
calls one session and continues with the answer. So a callback is a pure
function, and the calls it makes, to its own session or to others, can be read
off its script.
-/

set_option autoImplicit false

namespace SocketGate

/-- A session as an application refers to it. -/
structure Handle where
  slot : Nat
  id : SessionId
  path : String
  deriving DecidableEq

/-- A reaction that ends with a value of type `α`. -/
inductive Script (α : Type) where
  | done (value : α)
  /-- Call the session of a connection and go on with the answer. -/
  | call (slot : Nat) (request : Call) (next : Except SendRefusal Unit → Script α)

namespace Script

/-- Send one message to each of some sessions, whether it is accepted or not, and
end with a value. -/
def tell {α : Type} (slots : List Nat) (message : Message) (value : α) : Script α :=
  match slots with
  | [] => .done value
  | slot :: slots => .call slot (.send message) fun _ => tell slots message value

/-- Change the value a script ends with. -/
def map {α β : Type} (f : α → β) : Script α → Script β
  | .done value => .done (f value)
  | .call slot request next => .call slot request fun answer => (next answer).map f

/-- Go on with what a script ends with. -/
def andThen {α β : Type} (script : Script α) (f : α → Script β) : Script β :=
  match script with
  | .done value => f value
  | .call slot request next => .call slot request fun answer => (next answer).andThen f

end Script

/-- An application made of numbered services that share a state of type `σ`. -/
structure Application (σ : Type) where
  /-- The reaction of a service to an event of one of its sessions. -/
  react : σ → (service : Nat) → Handle → Event → Script σ

end SocketGate
