import SocketGate.Frame.Basic
import SocketGate.Frame.Violation

/-!
# `SocketGate.Frame.Wire`: frames as bytes

The wire format of RFC 6455, section 5.2. `Header.read` and `Frame.read` take a
header, respectively a whole frame, off the front of a byte string and give back
what follows it; they answer `none` while bytes are missing. `Frame.write` is
the wire form of a frame. Every violation is reported as early as the bytes show
it: the checks on the first two bytes come before anything else is awaited, and
the announced length is checked before the masking key is there.
-/

set_option autoImplicit false

namespace SocketGate

/-- What the first two bytes of a frame say. -/
structure Lead where
  fin : Bool
  opcode : Opcode
  masked : Bool
  /-- The seven-bit length: 126 and 127 announce a longer field. -/
  shortLength : Nat
  deriving DecidableEq

namespace Lead

/-- The direction of a frame decides whether it must be masked. -/
def checkMask (role : Role) (masked : Bool) : Except Violation Unit :=
  match role, masked with
  | .server, false => .error .unmasked
  | .client, true => .error .masked
  | _, _ => .ok ()

/-- A control frame is final and has at most 125 payload bytes. -/
def checkControl (opcode : Opcode) (fin : Bool) (size : Nat) : Except Violation Unit :=
  if !opcode.isControl then .ok ()
  else if !fin then .error .fragmentedControl
  else if maxControlPayload < size then .error (.oversizedControl size)
  else .ok ()

/-- Read the first two bytes of a frame. The checks come in this order: the
reserved bits, the opcode, the mask, the rules for control frames. -/
def read (role : Role) (first second : UInt8) : Except Violation Lead :=
  if first &&& 0x70 ≠ 0 then .error .reservedBits
  else match Opcode.ofCode? (first &&& 0x0F) with
    | none => .error (.unknownOpcode (first &&& 0x0F))
    | some opcode => do
      let fin := first &&& 0x80 ≠ 0
      let masked := second &&& 0x80 ≠ 0
      let shortLength := (second &&& 0x7F).toNat
      checkMask role masked
      checkControl opcode fin shortLength
      return { fin, opcode, masked, shortLength }

/-- How many bytes the extended length field has. -/
def lengthWidth (lead : Lead) : Nat :=
  if lead.shortLength = 126 then 2 else if lead.shortLength = 127 then 8 else 0

/-- Read the payload length. -/
def readLength (lead : Lead) (bytes : Bytes) : Option (Nat × Bytes) :=
  if lead.lengthWidth = 0 then some (lead.shortLength, bytes)
  else (Bytes.splitExact? lead.lengthWidth bytes).map fun (field, rest) =>
    (Bytes.toNatBE field, rest)

/-- Read the masking key, if one is announced. -/
def readMask (lead : Lead) (bytes : Bytes) : Option (Option MaskKey × Bytes) :=
  if !lead.masked then some (none, bytes)
  else match bytes with
    | a :: b :: c :: d :: rest => some (some ⟨a, b, c, d⟩, rest)
    | _ => none

end Lead

/-- A frame without its payload. -/
structure Header where
  fin : Bool
  opcode : Opcode
  mask : Option MaskKey
  /-- How many payload bytes follow. -/
  length : Nat
  deriving DecidableEq

namespace Header

/-- Take a header off the front of `bytes`, for payloads of at most `limit`
bytes. -/
def read (role : Role) (limit : Nat) : Bytes → Except Violation (Option (Header × Bytes))
  | first :: second :: rest =>
    match Lead.read role first second with
    | .error violation => .error violation
    | .ok lead =>
      match lead.readLength rest with
      | none => .ok none
      | some (length, rest) =>
        if limit < length then .error (.oversizedFrame length limit)
        else match lead.readMask rest with
          | none => .ok none
          | some (mask, rest) =>
            .ok (some ({ fin := lead.fin, opcode := lead.opcode, mask, length }, rest))
  | _ => .ok none

/-- The frame with this header and these payload bytes as they came in. -/
def toFrame (header : Header) (wirePayload : Bytes) : Frame where
  fin := header.fin
  opcode := header.opcode
  mask := header.mask
  payload := match header.mask with
    | some key => key.apply wirePayload
    | none => wirePayload

/-- Take the payload off the front of `bytes`. -/
def readPayload (header : Header) (bytes : Bytes) : Option (Frame × Bytes) :=
  (Bytes.splitExact? header.length bytes).map fun (payload, rest) =>
    (header.toFrame payload, rest)

end Header

namespace Frame

/-- Take one frame off the front of `bytes`, for payloads of at most `limit`
bytes. -/
def read (role : Role) (limit : Nat) (bytes : Bytes) :
    Except Violation (Option (Frame × Bytes)) :=
  match Header.read role limit bytes with
  | .error violation => .error violation
  | .ok none => .ok none
  | .ok (some (header, rest)) => .ok (header.readPayload rest)

/-- The bytes before the payload. The length takes the shortest of its three
forms. -/
def writeHeader (frame : Frame) : Bytes :=
  let size := frame.payload.length
  let first := frame.opcode.code ||| (if frame.fin then 0x80 else 0)
  let maskBit : UInt8 := if frame.mask.isSome then 0x80 else 0
  let length : Bytes :=
    if size ≤ 125 then [maskBit ||| UInt8.ofNat size]
    else if size ≤ 0xFFFF then (maskBit ||| 126) :: Bytes.ofNatBE 2 size
    else (maskBit ||| 127) :: Bytes.ofNatBE 8 size
  let key := match frame.mask with
    | some key => key.toBytes
    | none => []
  first :: (length ++ key)

/-- The payload as it stands on the wire. -/
def wirePayload (frame : Frame) : Bytes :=
  match frame.mask with
  | some key => key.apply frame.payload
  | none => frame.payload

/-- The wire form of a frame. A control frame that is fragmented or too long has
none. -/
def write (frame : Frame) : Except Violation Bytes :=
  match Lead.checkControl frame.opcode frame.fin frame.payload.length with
  | .error violation => .error violation
  | .ok () => .ok (frame.writeHeader ++ frame.wirePayload)

/-- Append the wire form of a frame to a buffer. The payload is put down plain and masked
where it stands. A frame that has no wire form leaves the buffer alone. -/
def writeTo (frame : Frame) (buffer : Bytes) : Except Violation Unit × Bytes :=
  match Lead.checkControl frame.opcode frame.fin frame.payload.length with
  | .error violation => (.error violation, buffer)
  | .ok () =>
    let headed := buffer ++ frame.writeHeader
    let plain := headed ++ frame.payload
    match frame.mask with
    | some key => (.ok (), key.applyFrom headed.length plain)
    | none => (.ok (), plain)

end Frame

end SocketGate
