import SocketGate.Chat.Notice
import SocketGate.Chat.Request
import SocketGate.Service.Script
import SocketGate.Text.Blank

/-!
# `SocketGate.Chat.Room`: one room for everybody

The room is the list of its members, each with a name. A session that opens
becomes a member under a name made from its id; a session that closes leaves.
What a member says, and every change of a name, is told to all members,
including the one it is about. What is not understood is answered to its sender
alone.
-/

set_option autoImplicit false

namespace SocketGate.Chat

/-- A session in the room. -/
structure Member where
  id : SessionId
  /-- The connection it belongs to. -/
  slot : Nat
  name : String
  deriving DecidableEq

/-- The members, in the order in which they came. -/
abbrev Room := List Member

namespace Room

/-- The name of a member. -/
def nameOf? (room : Room) (id : SessionId) : Option String :=
  (room.find? (·.id = id)).map (·.name)

/-- Take in a member, in place of an earlier one with the same id. -/
def insert (room : Room) (member : Member) : Room :=
  room.filter (·.id ≠ member.id) ++ [member]

/-- Give a member another name. -/
def rename (room : Room) (id : SessionId) (name : String) : Room :=
  room.map fun member => if member.id = id then { member with name } else member

/-- Let a member go. -/
def erase (room : Room) (id : SessionId) : Room :=
  room.filter (·.id ≠ id)

/-- Tell everybody. -/
def broadcast (room : Room) (notice : Notice) : Script Room :=
  .tell (room.map (·.slot)) (.text notice.text) room

/-- Tell one session, member or not. -/
def answer (room : Room) (handle : Handle) (notice : Notice) : Script Room :=
  .tell [handle.slot] (.text notice.text) room

/-- The name a session comes in under: the first eight characters of its id. -/
def guestName (id : SessionId) : String :=
  "guest-" ++ String.ofList (id.text.toList.take 8)

/-- A session opens. -/
def join (room : Room) (handle : Handle) : Script Room :=
  let name := guestName handle.id
  let room := room.insert { id := handle.id, slot := handle.slot, name }
  (room.answer handle (.welcome handle.id.text name)).andThen fun room =>
    room.broadcast (.joined name)

/-- A member asks for something. -/
def serve (room : Room) (handle : Handle) (name : String) : Request → Script Room
  | .say content => room.broadcast (.said name content)
  | .setName wanted =>
    let wanted := Text.trim wanted
    if wanted.isEmpty then room.answer handle (.refused "name must not be empty")
    else (room.rename handle.id wanted).broadcast (.renamed name wanted)

/-- A message comes in. Only members are answered when they send text. -/
def receive (room : Room) (handle : Handle) : Message → Script Room
  | .binary _ => room.answer handle (.refused "binary messages are not supported")
  | .text content =>
    match room.nameOf? handle.id with
    | none => .done room
    | some name =>
      match Request.ofText? content with
      | .ok request => room.serve handle name request
      | .error fault => room.answer handle (.refused ("invalid message: " ++ fault.message))

/-- A session closes. -/
def leave (room : Room) (handle : Handle) : Script Room :=
  match room.nameOf? handle.id with
  | none => .done room
  | some name => (room.erase handle.id).broadcast (.left name)

/-- React to an event of a session. -/
def react (room : Room) (handle : Handle) : Event → Script Room
  | .opened => room.join handle
  | .received message => room.receive handle message
  | .failed _ => .done room
  | .closed _ => room.leave handle

end Room

end SocketGate.Chat
