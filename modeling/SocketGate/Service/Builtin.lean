import SocketGate.Chat.Room

/-!
# `SocketGate.Service.Builtin`: the services a server offers

A hall is a list of services that sessions are routed to. Each service reacts to
the events of its own sessions only.
-/

set_option autoImplicit false

namespace SocketGate

/-- A service. -/
inductive Service where
  /-- Takes messages and does nothing. -/
  | record
  | echo
  /-- Closes the session on every message. -/
  | closer
  | chat (room : Chat.Room)

namespace Service

/-- The status code that the closer gives: one of a hundred, by the length of the
message. -/
def closerCode (message : Message) : CloseCode :=
  CloseCode.ofNumber (UInt16.ofNat (4000 + message.payload.length % 100))

/-- React to an event of a session. -/
def react (service : Service) (handle : Handle) (event : Event) : Script Service :=
  match service, event with
  | .echo, .received message => .call handle.slot (.send message) fun _ => .done .echo
  | .closer, .received message =>
    .call handle.slot (.close (closerCode message) "closer") fun _ => .done .closer
  | .chat room, event => (room.react handle event).map .chat
  | service, _ => .done service

/-- How many members the room has, if the service is one. -/
def memberCount? : Service → Option Nat
  | .chat room => some room.length
  | _ => none

end Service

/-- The services of a server, by number. -/
abbrev Hall := List Service

/-- A hall as an application: a session's events go to its service. -/
def Hall.application : Application Hall where
  react hall number handle event :=
    match hall[number]? with
    | none => .done hall
    | some service => (service.react handle event).map fun service => hall.set number service

end SocketGate
