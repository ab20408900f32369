import SocketGate.Bytes

/-!
# `SocketGate.Sha1`: the hash function SHA-1

The secure hash algorithm of FIPS 180-4, section 6.1, on byte strings. The
opening handshake uses it to show that a server read the client's key; nothing
here relies on it for secrecy.
-/

set_option autoImplicit false

namespace SocketGate.Sha1

/-- The five words of the hash value. -/
structure Digest where
  a : UInt32
  b : UInt32
  c : UInt32
  d : UInt32
  e : UInt32

/-- The hash value that the first block is mixed into. -/
def Digest.start : Digest :=
  ⟨0x67452301, 0xEFCDAB89, 0x98BADCFE, 0x10325476, 0xC3D2E1F0⟩

/-- The bytes of a hash value, most significant first. -/
def Digest.toBytes (h : Digest) : Bytes :=
  [h.a, h.b, h.c, h.d, h.e].flatMap fun word => Bytes.ofNatBE 4 word.toNat

/-- Rotate left by `n`, for `n` from 1 to 31. -/
def rotate (n word : UInt32) : UInt32 :=
  (word <<< n) ||| (word >>> (32 - n))

/-- The message, a one bit, zeros up to eight bytes before a block boundary, and
the length in bits. -/
def pad (message : Bytes) : Bytes :=
  -- Fifty-five bytes of a block leave room for the one bit and the length, and 119 is 55 + 64.
  let zeros := (119 - message.length % 64) % 64
  message ++ 0x80 :: List.replicate zeros 0 ++ Bytes.ofNatBE 8 (message.length * 8)

/-- The eighty words that one block is stretched to. -/
def schedule (block : Bytes) : Array UInt32 :=
  let words := (Bytes.chunks 4 block).map fun word => UInt32.ofNat (Bytes.toNatBE word)
  (List.range 64).foldl
    (fun w i =>
      let mixed := w.getD (i + 13) 0 ^^^ w.getD (i + 8) 0 ^^^ w.getD (i + 2) 0 ^^^ w.getD i 0
      w.push (rotate 1 mixed))
    words.toArray

/-- The function and the constant of round `t`. -/
def round (t : Nat) (b c d : UInt32) : UInt32 × UInt32 :=
  if t < 20 then ((b &&& c) ||| (~~~b &&& d), 0x5A827999)
  else if t < 40 then (b ^^^ c ^^^ d, 0x6ED9EBA1)
  else if t < 60 then ((b &&& c) ||| (b &&& d) ||| (c &&& d), 0x8F1BBCDC)
  else (b ^^^ c ^^^ d, 0xCA62C1D6)

/-- Mix one block into the hash value. -/
def compress (h : Digest) (block : Bytes) : Digest :=
  let w := schedule block
  let mixed := (List.range 80).foldl
    (fun (s : Digest) t =>
      let (f, k) := round t s.b s.c s.d
      ⟨rotate 5 s.a + f + s.e + k + w.getD t 0, s.a, rotate 30 s.b, s.c, s.d⟩)
    h
  ⟨h.a + mixed.a, h.b + mixed.b, h.c + mixed.c, h.d + mixed.d, h.e + mixed.e⟩

/-- The twenty bytes of the hash value of a message. -/
def hash (message : Bytes) : Bytes :=
  ((Bytes.chunks 64 (pad message)).foldl compress Digest.start).toBytes

end SocketGate.Sha1
