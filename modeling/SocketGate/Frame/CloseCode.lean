/-!
# `SocketGate.Frame.CloseCode`: status codes of the closing handshake

The codes of RFC 6455, section 7.4, and which of them may stand in a close
frame. `CloseCode.ofNumber` and `CloseCode.number` go between the named codes
and their sixteen-bit numbers.
-/

set_option autoImplicit false

namespace SocketGate

/-- Why a connection is closed. -/
inductive CloseCode where
  /-- 1000: the purpose of the connection has been met. -/
  | normal
  /-- 1001: an endpoint is going away. -/
  | goingAway
  /-- 1002: a violation of the protocol. -/
  | protocol
  /-- 1003: a kind of data that cannot be accepted. -/
  | unsupported
  /-- 1005: the close frame held no code. Never sent. -/
  | noStatus
  /-- 1006: the connection was lost without a close frame. Never sent. -/
  | abnormal
  /-- 1007: data that does not fit the type of its message. -/
  | invalidPayload
  /-- 1008: a message that violates a policy. -/
  | policy
  /-- 1009: a message too big to process. -/
  | tooBig
  /-- 1011: an unexpected condition at the server. -/
  | internal
  /-- Any other number. -/
  | other (number : UInt16)
  deriving DecidableEq

namespace CloseCode

/-- The number of a code. -/
def number : CloseCode → UInt16
  | .normal => 1000
  | .goingAway => 1001
  | .protocol => 1002
  | .unsupported => 1003
  | .noStatus => 1005
  | .abnormal => 1006
  | .invalidPayload => 1007
  | .policy => 1008
  | .tooBig => 1009
  | .internal => 1011
  | .other number => number

/-- The code of a number. A number with a name is never `other`. -/
def ofNumber (number : UInt16) : CloseCode :=
  match number.toNat with
  | 1000 => .normal
  | 1001 => .goingAway
  | 1002 => .protocol
  | 1003 => .unsupported
  | 1005 => .noStatus
  | 1006 => .abnormal
  | 1007 => .invalidPayload
  | 1008 => .policy
  | 1009 => .tooBig
  | 1011 => .internal
  | _ => .other number

/-- The numbers a close frame may hold: the registered ones 1000 to 1003 and
1007 to 1014, and 3000 to 4999 for libraries and applications. -/
def sendableNumber (number : Nat) : Bool :=
  (1000 ≤ number && number ≤ 1003) || (1007 ≤ number && number ≤ 1014) ||
    (3000 ≤ number && number ≤ 4999)

/-- Whether the code may stand in a close frame. -/
def isSendable : CloseCode → Bool
  | .noStatus | .abnormal => false
  | .other number => sendableNumber number.toNat
  | _ => true

end CloseCode

end SocketGate
