import SocketGate.Frame.Basic

/-!
# `SocketGate.Message.Basic`: messages and their fragments

A message is what an application sends and receives: a text or a byte string,
however many frames it takes. `Message.fragments` cuts a message into frames.
-/

set_option autoImplicit false

namespace SocketGate

/-- A whole message. -/
inductive Message where
  | text (text : String)
  | binary (payload : Bytes)
  deriving DecidableEq

namespace Message

/-- The opcode of the frame that starts the message. -/
def opcode : Message → Opcode
  | .text _ => .text
  | .binary _ => .binary

/-- The bytes of the message. -/
def payload : Message → Bytes
  | .text content => Bytes.ofText content
  | .binary content => content

/-- The pieces of the payload, one for each frame. An empty message has one
empty piece. -/
def pieces (message : Message) (limit : Nat) : List Bytes :=
  match Bytes.chunks limit message.payload with
  | [] => [[]]
  | pieces => pieces

/-- The frames of a message, with at most `limit` payload bytes each, and one at
least. The first frame has the opcode of the message, the others are
continuations, and the last one is final. -/
def fragments (message : Message) (limit : Nat) : List Frame :=
  let pieces := message.pieces limit
  let count := pieces.length
  pieces.mapIdx fun index payload =>
    { fin := index + 1 = count
      opcode := if index = 0 then message.opcode else .continuation
      mask := none
      payload }

end Message

end SocketGate
