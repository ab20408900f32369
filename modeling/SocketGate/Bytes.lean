/-!
# `SocketGate.Bytes`: byte strings

A byte string is a list of bytes. The operations here are the ones the wire
formats share: taking an exact number of bytes off the front, cutting a string
into pieces of one size, big-endian numbers, and the UTF-8 form of a text.
-/

set_option autoImplicit false

namespace SocketGate

/-- A byte string, first byte first. -/
abbrev Bytes := List UInt8

namespace Bytes

/-- The first `n` bytes and what follows them, or `none` if there are fewer. -/
def splitExact? (n : Nat) (bytes : Bytes) : Option (Bytes × Bytes) :=
  let front := bytes.take n
  if front.length = n then some (front, bytes.drop n) else none

/-- The pieces still to come are cut off `bytes` one by one; `fuel` bounds their
number, and the length of `bytes` is always enough of it. -/
def chunksFrom (size : Nat) : Nat → Bytes → Array Bytes → Array Bytes
  | 0, _, pieces => pieces
  | _ + 1, [], pieces => pieces
  | fuel + 1, bytes, pieces =>
    chunksFrom size fuel (bytes.drop size) (pieces.push (bytes.take size))

/-- Cut into pieces of `size` bytes, the last one possibly shorter. The empty
string has no piece. A size of zero is read as one. -/
def chunks (size : Nat) (bytes : Bytes) : List Bytes :=
  (chunksFrom (max 1 size) bytes.length bytes #[]).toList

/-- The number whose base-256 digits are `bytes`, most significant first. -/
def toNatBE (bytes : Bytes) : Nat :=
  bytes.foldl (fun n b => n * 256 + b.toNat) 0

/-- The last `width` base-256 digits of `n`, most significant first. -/
def ofNatBE : (width : Nat) → (n : Nat) → Bytes
  | 0, _ => []
  | width + 1, n => ofNatBE width (n / 256) ++ [UInt8.ofNat (n % 256)]

/-- The UTF-8 form of a text. -/
def ofText (text : String) : Bytes :=
  text.toUTF8.data.toList

/-- The text whose UTF-8 form is `bytes`, if there is one. -/
def toText? (bytes : Bytes) : Option String :=
  String.fromUTF8? ⟨bytes.toArray⟩

end Bytes

end SocketGate
