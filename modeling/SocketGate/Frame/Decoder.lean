import SocketGate.Frame.Wire

/-!
# `SocketGate.Frame.Decoder`: frames out of a stream

A decoder keeps the bytes of a stream that no frame has used yet. Bytes are fed
in whatever pieces they arrive; `Decoder.next` gives the next frame. A header is
taken off the buffer as soon as it is complete and kept aside until the payload
is there, so the buffer of a decoder that waits for a payload does not hold the
header any more.
-/

set_option autoImplicit false

namespace SocketGate

/-- Why a stream of frames cannot go on. -/
inductive StreamFault where
  /-- The peer broke a rule. -/
  | violation (violation : Violation)
  /-- The stream ended with bytes that form no frame. -/
  | leftover
  deriving DecidableEq

/-- A reader of frames, between two of them or inside one. -/
structure Decoder where
  role : Role
  /-- The largest payload accepted. -/
  limit : Nat
  /-- The header of the frame whose payload is awaited. -/
  pending : Option Header := none
  /-- The bytes not used yet. -/
  buffer : Bytes := []
  deriving DecidableEq

namespace Decoder

/-- Append bytes to the stream. -/
def feed (decoder : Decoder) (bytes : Bytes) : Decoder :=
  if bytes.isEmpty then decoder else { decoder with buffer := decoder.buffer ++ bytes }

/-- Read the payload that belongs to `header`, or keep the header for later. -/
def nextPayload (decoder : Decoder) (header : Header) : Option Frame × Decoder :=
  match header.readPayload decoder.buffer with
  | some (frame, rest) => (some frame, { decoder with pending := none, buffer := rest })
  | none => (none, { decoder with pending := some header })

/-- The next frame of the stream, or `none` while it is incomplete. After a
violation the decoder is as before, so the violation stays. -/
def next (decoder : Decoder) : Except Violation (Option Frame) × Decoder :=
  -- A header that was read before is not in the buffer any more.
  match decoder.pending with
  | some header =>
    let (frame, decoder) := decoder.nextPayload header
    (.ok frame, decoder)
  | none =>
    match Header.read decoder.role decoder.limit decoder.buffer with
    | .error violation => (.error violation, decoder)
    | .ok none => (.ok none, decoder)
    | .ok (some (header, rest)) =>
      let (frame, decoder) := { decoder with buffer := rest }.nextPayload header
      (.ok frame, decoder)

/-- The next frame of a stream that has ended: an incomplete frame is a fault if
any of its bytes are still in the buffer. -/
def nextAtEnd (decoder : Decoder) : Except StreamFault (Option Frame) × Decoder :=
  match decoder.next with
  | (.error violation, decoder) => (.error (.violation violation), decoder)
  | (.ok (some frame), decoder) => (.ok (some frame), decoder)
  | (.ok none, decoder) =>
    if decoder.buffer.isEmpty then (.ok none, decoder) else (.error .leftover, decoder)

end Decoder

end SocketGate
