import SocketGate.Message.Basic
import SocketGate.Frame.Violation

/-!
# `SocketGate.Message.Assembler`: messages out of data frames

An assembler holds at most one message in progress and bounds its size.
`Assembler.push` takes one frame and gives the message that the frame completes.
A frame that starts a message inside another is refused and leaves the one in
progress alone; after any other violation nothing is in progress.
-/

set_option autoImplicit false

namespace SocketGate

/-- The two types of message. -/
inductive MessageType where
  | text
  | binary
  deriving DecidableEq

namespace MessageType

/-- The type of message that a frame with this opcode starts. -/
def ofOpcode? : Opcode → Option MessageType
  | .text => some .text
  | .binary => some .binary
  | _ => none

/-- The message of this type with these bytes. -/
def finish : MessageType → Bytes → Except Violation Message
  | .text, payload =>
    match Bytes.toText? payload with
    | some content => .ok (.text content)
    | none => .error .invalidText
  | .binary, payload => .ok (.binary payload)

end MessageType

/-- A message in progress. -/
structure Begun where
  type : MessageType
  payload : Bytes
  deriving DecidableEq

/-- Puts the fragments of messages together. -/
structure Assembler where
  limit : Nat
  pending : Option Begun := none
  deriving DecidableEq

namespace Assembler

/-- Take the next piece of the message in progress. -/
def pushContinuation (assembler : Assembler) (fin : Bool) (payload : Bytes) :
    Except Violation (Option Message) × Assembler :=
  match assembler.pending with
  | none => (.error .strayContinuation, assembler)
  | some begun =>
    let size := begun.payload.length + payload.length
    -- The size is checked before the pieces are put together.
    if assembler.limit < size then
      (.error (.oversizedMessage size assembler.limit), { assembler with pending := none })
    else
      let whole := begun.payload ++ payload
      if fin then
        ((begun.type.finish whole).map some, { assembler with pending := none })
      else
        (.ok none, { assembler with pending := some { begun with payload := whole } })

/-- Start a message. -/
def pushStart (assembler : Assembler) (type : MessageType) (fin : Bool) (payload : Bytes) :
    Except Violation (Option Message) × Assembler :=
  if assembler.pending.isSome then (.error .interleavedMessage, assembler)
  else if assembler.limit < payload.length then
    (.error (.oversizedMessage payload.length assembler.limit), assembler)
  else if fin then ((type.finish payload).map some, assembler)
  else (.ok none, { assembler with pending := some { type, payload } })

/-- Take one frame. Control frames are no part of a message and change
nothing. -/
def push (assembler : Assembler) (frame : Frame) :
    Except Violation (Option Message) × Assembler :=
  match frame.opcode with
  | .continuation => assembler.pushContinuation frame.fin frame.payload
  | .text => assembler.pushStart .text frame.fin frame.payload
  | .binary => assembler.pushStart .binary frame.fin frame.payload
  | .close | .ping | .pong => (.ok none, assembler)

end Assembler

end SocketGate
