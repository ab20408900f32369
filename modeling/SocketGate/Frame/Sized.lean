import SocketGate.Frame.Decoder
import SocketGate.Size

/-!
# `SocketGate.Frame.Sized`: frames by indices

A frame can be read by indices into the bytes instead of piece by piece off their front. Then the
outcome depends on sizes: where the header ends, where the payload ends, and how many bytes of it
are missing. `Frame.decode?` reads one frame like this, and `Decoder.next?` is the next frame of a
stream.
-/

set_option autoImplicit false

namespace SocketGate

/-- The key with these bytes, if there are four. -/
def MaskKey.ofBytes? : Bytes → Option MaskKey
  | [first, second, third, fourth] => some ⟨first, second, third, fourth⟩
  | _ => none

namespace Lead

/-- How many bytes the masking key has. -/
def maskWidth (lead : Lead) : Nat := if lead.masked then 4 else 0

/-- The header at the front of `bytes`, for payloads of at most `limit` bytes, and where it
ends. -/
def parse? (lead : Lead) (limit : Nat) (bytes : Bytes) :
    Sized (Except Violation (Option (Header × Nat))) := do
  let keyStart := 2 + lead.lengthWidth
  let stop := keyStart + lead.maskWidth
  if bytes.length < keyStart then return .ok none
  let field ← Size.slice 2 keyStart bytes
  let length := if lead.lengthWidth = 0 then lead.shortLength else Bytes.toNatBE field
  -- A length that is too large is a violation even if the key is not there yet.
  if limit < length then return .error (.oversizedFrame length limit)
  if bytes.length < stop then return .ok none
  let key ← Size.slice keyStart stop bytes
  return .ok (some
    ({ fin := lead.fin, opcode := lead.opcode, mask := MaskKey.ofBytes? key, length }, stop))

end Lead

/-- The header at the front of `bytes`, for payloads of at most `limit` bytes, and where it
ends. -/
def Header.parse? (role : Role) (limit : Nat) (bytes : Bytes) :
    Sized (Except Violation (Option (Header × Nat))) :=
  match bytes with
  | first :: second :: _ =>
    match Lead.read role first second with
    | .error violation => .ok (.error violation)
    | .ok lead => lead.parse? limit bytes
  | _ => .ok (.ok none)

/-- The frame at the front of `bytes`, for payloads of at most `limit` bytes, and how many bytes
it takes. -/
def Frame.decode? (role : Role) (limit : Nat) (bytes : Bytes) :
    Sized (Except Violation (Option (Frame × Nat))) := do
  match ← Header.parse? role limit bytes with
  | .error violation => return .error violation
  | .ok none => return .ok none
  | .ok (some (header, size)) =>
    let total ← Size.add size header.length
    if bytes.length < total then return .ok none
    let payload ← Size.slice size total bytes
    return .ok (some (header.toFrame payload, total))

namespace Decoder

/-- Read the payload that belongs to `header`. If it is not there, have room for what is
missing. -/
def nextPayload? (decoder : Decoder) (header : Header) : Sized (Option Frame × Decoder) := do
  let size := decoder.buffer.length
  if size < header.length then
    let missing ← Size.sub header.length size
    Size.hold (size + missing)
    return (none, { decoder with pending := some header })
  let payload ← Size.slice 0 header.length decoder.buffer
  let rest ← Size.slice header.length size decoder.buffer
  return (some (header.toFrame payload), { decoder with pending := none, buffer := rest })

/-- The next frame of the stream, or `none` while it is incomplete. -/
def next? (decoder : Decoder) : Sized (Except Violation (Option Frame) × Decoder) := do
  match decoder.pending with
  | some header =>
    let (frame, decoder) ← decoder.nextPayload? header
    return (.ok frame, decoder)
  | none =>
    match ← Header.parse? decoder.role decoder.limit decoder.buffer with
    | .error violation => return (.error violation, decoder)
    | .ok none => return (.ok none, decoder)
    | .ok (some (header, size)) =>
      let rest ← Size.slice size decoder.buffer.length decoder.buffer
      let (frame, decoder) ← { decoder with buffer := rest }.nextPayload? header
      return (.ok frame, decoder)

end Decoder

end SocketGate
