import SocketGate.Frame.CloseCode
import SocketGate.Text.Hex

/-!
# `SocketGate.Frame.Violation`: violations of the protocol

What a peer can get wrong in its frames and messages, the wording of each case,
and the status code the connection is closed with.
-/

set_option autoImplicit false

namespace SocketGate

/-- A rule of the protocol that a peer broke. -/
inductive Violation where
  /-- A reserved bit is set, but no extension was agreed on. -/
  | reservedBits
  /-- No opcode has this code. -/
  | unknownOpcode (code : UInt8)
  | unmasked
  | masked
  | fragmentedControl
  | oversizedControl (size : Nat)
  | oversizedFrame (size limit : Nat)
  | oversizedMessage (size limit : Nat)
  | strayContinuation
  | interleavedMessage
  | invalidText
  /-- The payload of a close frame has no readable status code and text. -/
  | invalidClose
  deriving DecidableEq

namespace Violation

/-- The wording of a violation. -/
def message : Violation → String
  | .reservedBits => "reserved bits set"
  | .unknownOpcode code => "invalid opcode: 0x" ++ Text.hexUpper code.toNat
  | .unmasked => "client frame must be masked"
  | .masked => "server frame must not be masked"
  | .fragmentedControl => "control frame cannot be fragmented"
  | .oversizedControl size => s!"control frame payload too large: {size} bytes (max: 125)"
  | .oversizedFrame size limit => s!"frame too large: {size} bytes (max: {limit})"
  | .oversizedMessage size limit => s!"message too large: {size} bytes (max: {limit})"
  | .strayContinuation => "continuation frame without an initiating frame"
  | .interleavedMessage => "data frame received before the previous message finished"
  | .invalidText => "invalid UTF-8 in text message"
  | .invalidClose => "invalid close frame payload"

/-- The status code the connection is closed with. -/
def closeCode : Violation → CloseCode
  | .invalidText => .invalidPayload
  | .oversizedFrame .. | .oversizedMessage .. => .tooBig
  | _ => .protocol

end Violation

end SocketGate
