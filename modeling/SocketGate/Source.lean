import SocketGate.Bytes
import SocketGate.IoFault

/-!
# `SocketGate.Source`: the receiving side of a byte stream

A source is what has arrived on a stream and has not been read, together with
what is known about the rest of the stream.
-/

set_option autoImplicit false

namespace SocketGate

/-- What comes after the bytes that have arrived. -/
inductive Ending where
  /-- Possibly more bytes. -/
  | unfinished
  /-- Nothing: the peer has stopped sending. -/
  | ended
  /-- A failure, and nothing after it. -/
  | failed (fault : IoFault)
  deriving DecidableEq

/-- The bytes of a stream that have arrived and have not been read. -/
structure Source where
  bytes : Bytes := []
  ending : Ending := .unfinished
  deriving DecidableEq

namespace Source

/-- More bytes arrive. -/
def receive (source : Source) (bytes : Bytes) : Source :=
  { source with bytes := source.bytes ++ bytes }

/-- The peer stops sending. A failure that is still to be met stays. -/
def finish (source : Source) : Source :=
  match source.ending with
  | .failed _ => source
  | _ => { source with ending := .ended }

/-- The stream breaks after the bytes that have arrived. -/
def fail (source : Source) (fault : IoFault) : Source :=
  { source with ending := .failed fault }

/-- The outcome of reading something off a source: `none` while bytes are
missing, else the value or a failure, and the source after it. -/
abbrev Reading (α : Type) := Option (Except IoFault α × Source)

/-- Bytes up to and including the next line feed, at most `limit` of them. The
line has no line feed if the limit or the end of the stream comes first. -/
def takeLine (limit : Nat) (source : Source) : Reading Bytes :=
  let window := source.bytes.take limit
  let line := window.takeWhile (· ≠ 0x0A)
  if line.length < window.length then
    some (.ok (line ++ [0x0A]), { source with bytes := source.bytes.drop (line.length + 1) })
  else if window.length = limit then
    some (.ok window, { source with bytes := source.bytes.drop limit })
  else match source.ending with
    | .unfinished => none
    | .ended => some (.ok window, { source with bytes := [] })
    | .failed fault => some (.error fault, { bytes := [], ending := .ended })

end Source

end SocketGate
