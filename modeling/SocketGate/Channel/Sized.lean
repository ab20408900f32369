import SocketGate.Channel.Basic
import SocketGate.Size

/-!
# `SocketGate.Channel.Sized`: the sizes that a channel computes

Beside the lengths in its frames a channel computes with two sizes: that of a message in progress,
and that of its queue.
-/

set_option autoImplicit false

namespace SocketGate

/-- Take one frame. The size of a message in progress is computed before it is compared with the
limit, and the buffer of the message grows after that. -/
def Assembler.push? (assembler : Assembler) (frame : Frame) :
    Sized (Except Violation (Option Message) × Assembler) := do
  match frame.opcode, assembler.pending with
  | .continuation, some begun =>
    let size ← Size.add begun.payload.length frame.payload.length
    if size ≤ assembler.limit then Size.hold size
    return assembler.push frame
  | _, _ => return assembler.push frame

namespace Outbox

/-- The most places that a queue can have. -/
def maxCapacity : Nat := UInt64.size / 8 - 1

/-- The empty queue for so many frames. The places of the headroom are made with it. -/
def ofLimit? (limit : Nat) : Sized Outbox := do
  let places ← Size.add limit headroom
  if places ≤ maxCapacity then return { limit } else throw .capacity

end Outbox

/-- The channel of a connection whose opening handshake has just been completed, if its queue can
be made. -/
def Channel.ofTransport? (transport : Transport) (id : SessionId) (path : String)
    (limits : Limits) (now : Nat) : Sized Channel := do
  let _ ← Outbox.ofLimit? limits.queue
  return .ofTransport transport id path limits now

end SocketGate
