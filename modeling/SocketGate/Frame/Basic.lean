import SocketGate.Bytes

/-!
# `SocketGate.Frame.Basic`: frames of the WebSocket protocol

A frame is one unit of the wire format of RFC 6455, section 5.2: an opcode, the
FIN flag, an optional masking key and a payload. `Frame.payload` is always the
plain payload; the key only matters on the wire.
-/

set_option autoImplicit false

namespace SocketGate

/-- What a frame is for. -/
inductive Opcode where
  /-- The next piece of a fragmented message. -/
  | continuation
  | text
  | binary
  /-- The start of, or the answer to, the closing handshake. -/
  | close
  /-- A request for a pong. -/
  | ping
  /-- The answer to a ping, or an unsolicited heartbeat. -/
  | pong
  deriving DecidableEq

namespace Opcode

/-- The four-bit code of an opcode. -/
def code : Opcode → UInt8
  | .continuation => 0x0
  | .text => 0x1
  | .binary => 0x2
  | .close => 0x8
  | .ping => 0x9
  | .pong => 0xA

/-- The opcode with a given code; the reserved codes have none. -/
def ofCode? (code : UInt8) : Option Opcode :=
  [continuation, text, binary, close, ping, pong].find? (·.code = code)

/-- Close, ping and pong frames may stand between the pieces of a message. -/
def isControl : Opcode → Bool
  | .close | .ping | .pong => true
  | .continuation | .text | .binary => false

/-- A frame that is not a control frame carries a piece of a message. -/
def isData (opcode : Opcode) : Bool := !opcode.isControl

end Opcode

/-- The four bytes of a masking key. -/
structure MaskKey where
  /-- Masks the payload bytes 0, 4, 8, … -/
  first : UInt8
  /-- Masks the payload bytes 1, 5, 9, … -/
  second : UInt8
  /-- Masks the payload bytes 2, 6, 10, … -/
  third : UInt8
  /-- Masks the payload bytes 3, 7, 11, … -/
  fourth : UInt8
  deriving DecidableEq

namespace MaskKey

/-- The key as it stands on the wire. -/
def toBytes (key : MaskKey) : Bytes :=
  [key.first, key.second, key.third, key.fourth]

/-- The key byte for the payload byte at `index`: the key is repeated. -/
def byteAt (key : MaskKey) (index : Nat) : UInt8 :=
  match index % 4 with
  | 0 => key.first
  | 1 => key.second
  | 2 => key.third
  | _ => key.fourth

/-- Mask a payload. Masking twice with one key gives the payload back. -/
def apply (key : MaskKey) (payload : Bytes) : Bytes :=
  payload.mapIdx fun index byte => byte ^^^ key.byteAt index

/-- Mask a buffer in place, from its byte at `start` on. -/
def applyFrom (key : MaskKey) (start : Nat) (buffer : Bytes) : Bytes :=
  buffer.mapIdx fun index byte =>
    if index < start then byte else byte ^^^ key.byteAt (index - start)

end MaskKey

/-- The largest payload of a control frame. -/
def maxControlPayload : Nat := 125

/-- One frame, its payload unmasked. -/
structure Frame where
  /-- Whether this frame ends its message. -/
  fin : Bool
  opcode : Opcode
  /-- The key the payload is masked with on the wire. -/
  mask : Option MaskKey
  payload : Bytes
  deriving DecidableEq

namespace Frame

/-- A final, unmasked frame. -/
def ofPayload (opcode : Opcode) (payload : Bytes) : Frame :=
  { fin := true, opcode, mask := none, payload }

/-- A ping. -/
def ping (payload : Bytes) : Frame := ofPayload .ping payload

/-- The answer to a ping. -/
def pong (payload : Bytes) : Frame := ofPayload .pong payload

end Frame

/-- Which end of a connection is reading. A client masks its frames, a server
does not. -/
inductive Role where
  /-- Reads what a client sent. -/
  | server
  /-- Reads what a server sent. -/
  | client
  deriving DecidableEq

end SocketGate
