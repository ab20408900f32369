import SocketGate.Text.Hex

/-!
# `SocketGate.Session.State`: identity and life cycle of a session

A session goes through four states in one direction. Its id is a 128-bit number,
written in the 8-4-4-4-12 form of RFC 9562.
-/

set_option autoImplicit false

namespace SocketGate

/-- Where a session stands. -/
inductive SessionState where
  /-- The opening handshake is done; the session is not announced yet. -/
  | handshakeDone
  /-- Messages flow both ways. -/
  | opened
  /-- One end has begun the closing handshake. -/
  | closing
  | closed
  deriving DecidableEq

namespace SessionState

/-- The name of a state. -/
def name : SessionState → String
  | .handshakeDone => "handshake-done"
  | .opened => "open"
  | .closing => "closing"
  | .closed => "closed"

/-- Whether frames may still be queued in this state. -/
def isWritable : SessionState → Bool
  | .handshakeDone | .opened => true
  | .closing | .closed => false

end SessionState

/-- The identity of a session. -/
structure SessionId where
  high : UInt64
  low : UInt64
  deriving DecidableEq

namespace SessionId

/-- Five groups of hexadecimal digits, joined by hyphens. -/
def text (id : SessionId) : String :=
  let upper := id.high.toNat
  let lower := id.low.toNat
  "-".intercalate
    [Text.hexPadded 8 (upper / 0x100000000), Text.hexPadded 4 (upper / 0x10000 % 0x10000),
      Text.hexPadded 4 (upper % 0x10000), Text.hexPadded 4 (lower / 0x1000000000000),
      Text.hexPadded 12 (lower % 0x1000000000000)]

end SessionId

end SocketGate
