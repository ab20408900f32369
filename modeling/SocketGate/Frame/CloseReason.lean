import SocketGate.Frame.Basic
import SocketGate.Frame.Violation

/-!
# `SocketGate.Frame.CloseReason`: the payload of a close frame

A close frame holds nothing, or a two-byte status code and a UTF-8 text.
`CloseReason.ofPayload?` reads such a payload and `CloseReason.toPayload` writes
it. A reason built by `CloseReason.of` always fits into one control frame:
`Text.clip` keeps the longest run of whole characters within the limit.
-/

set_option autoImplicit false

namespace SocketGate

/-- The characters of `chars` that fit into `room` bytes, up to the first that
does not. -/
def Text.clipChars : (room : Nat) → List Char → List Char
  | _, [] => []
  | room, c :: rest =>
    if c.utf8Size ≤ room then c :: clipChars (room - c.utf8Size) rest else []

/-- The longest prefix of whole characters that takes at most `room` bytes. -/
def Text.clip (room : Nat) (text : String) : String :=
  if text.utf8ByteSize ≤ room then text else String.ofList (clipChars room text.toList)

/-- A status code with an explanation. -/
structure CloseReason where
  code : CloseCode
  /-- The explanation, possibly empty. -/
  text : String
  deriving DecidableEq

namespace CloseReason

/-- The largest text that fits beside the two bytes of the code. -/
def maxText : Nat := maxControlPayload - 2

/-- A reason whose text is cut to what fits into a close frame. -/
def of (code : CloseCode) (text : String) : CloseReason :=
  { code, text := Text.clip maxText text }

/-- The closing of a connection that has served its purpose. -/
def normal : CloseReason := of .normal ""

/-- The connection was lost without a closing handshake. -/
def abnormal : CloseReason := of .abnormal ""

/-- The session was silent for too long. -/
def expired : CloseReason := of .goingAway "session expired"

/-- Read the payload of a close frame. A single byte is no code, and the codes
that are only ever reported are refused. -/
def ofPayload? : Bytes → Except Violation CloseReason
  | [] => .ok (of .noStatus "")
  | [_] => .error .invalidClose
  | high :: low :: text =>
    let code := CloseCode.ofNumber (UInt16.ofNat (Bytes.toNatBE [high, low]))
    if code.isSendable then
      match Bytes.toText? text with
      | some text => .ok { code, text }
      | none => .error .invalidClose
    else .error .invalidClose

/-- Write the payload of a close frame. A code that may not be sent gives the
empty payload. -/
def toPayload (reason : CloseReason) : Bytes :=
  if reason.code.isSendable then
    Bytes.ofNatBE 2 reason.code.number.toNat ++ Bytes.ofText reason.text
  else []

end CloseReason

/-- The close frame that carries a reason. -/
def Frame.close (reason : CloseReason) : Frame :=
  ofPayload .close reason.toPayload

end SocketGate
