import SocketGate.Bytes

/-!
# `SocketGate.Size`: sizes as numbers of 64 bits

Sizes and indices are numbers of 64 bits, and a buffer has fewer than 2^63 bytes. `Sized` is the
outcome of something that computes with them: there is none if a number leaves the 64 bits, if an
index lies outside of its bytes, or if no buffer is large enough.
-/

set_option autoImplicit false

namespace SocketGate

/-- Why something that computes with sizes has no outcome. -/
inductive SizeFault where
  /-- A sum or a difference is no number of 64 bits, or an index lies outside of the bytes. -/
  | range
  /-- No buffer or queue can be that large. -/
  | capacity
  deriving DecidableEq

/-- The outcome of something that computes with sizes. -/
abbrev Sized (α : Type) := Except SizeFault α

namespace Size

/-- A sum of two sizes. -/
def add (a b : Nat) : Sized Nat := if a + b < UInt64.size then .ok (a + b) else .error .range

/-- A difference of two sizes. -/
def sub (a b : Nat) : Sized Nat := if b ≤ a then .ok (a - b) else .error .range

/-- The bytes from one index up to another one. -/
def slice (start stop : Nat) (bytes : Bytes) : Sized Bytes :=
  if start ≤ stop ∧ stop ≤ bytes.length then .ok ((bytes.take stop).drop start)
  else .error .range

/-- Have a buffer with room for so many bytes. -/
def hold (size : Nat) : Sized Unit :=
  if size < UInt64.size / 2 then .ok () else .error .capacity

end Size

end SocketGate
