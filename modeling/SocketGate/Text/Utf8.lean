import SocketGate.Bytes

/-!
# `SocketGate.Text.Utf8`: where a byte string stops being UTF-8

The ranges of RFC 3629, section 4. `Utf8.fault?` finds the first character that
is not well formed and how many of its bytes rule it out; a character that the
end of the bytes cuts off is told apart from one that no further byte can mend.
-/

set_option autoImplicit false

namespace SocketGate.Text.Utf8

/-- The first ill-formed character. -/
structure Fault where
  /-- How many bytes stand before it. -/
  index : Nat
  /-- How many of its bytes no character starts with, or `none` if the bytes end
  inside a character. -/
  length : Option Nat
  deriving DecidableEq

/-- The wording of a fault. -/
def Fault.message (fault : Fault) : String :=
  match fault.length with
  | some length => s!"invalid utf-8 sequence of {length} bytes from index {fault.index}"
  | none => s!"incomplete utf-8 byte sequence from index {fault.index}"

/-- The ranges that the bytes after a lead byte have to be in, or `none` if no
character of more than one byte starts with it. -/
def tails? (lead : UInt8) : Option (List (UInt8 × UInt8)) :=
  let tail : UInt8 × UInt8 := (0x80, 0xBF)
  -- The narrow ranges leave out overlong forms after E0 and F0, surrogates after ED, and what is
  -- above the last code point after F4.
  if 0xC2 ≤ lead ∧ lead ≤ 0xDF then some [tail]
  else if lead = 0xE0 then some [(0xA0, 0xBF), tail]
  else if lead = 0xED then some [(0x80, 0x9F), tail]
  else if 0xE1 ≤ lead ∧ lead ≤ 0xEF then some [tail, tail]
  else if lead = 0xF0 then some [(0x90, 0xBF), tail, tail]
  else if 0xF1 ≤ lead ∧ lead ≤ 0xF3 then some [tail, tail, tail]
  else if lead = 0xF4 then some [(0x80, 0x8F), tail, tail]
  else none

/-- What is wrong with the bytes after a lead byte: `seen` bytes of the character
are fine so far. -/
def tailFault? : (ranges : List (UInt8 × UInt8)) → (seen : Nat) → Bytes → Option (Option Nat)
  | [], _, _ => none
  | _ :: _, _, [] => some none
  | (low, high) :: ranges, seen, b :: rest =>
    if low ≤ b ∧ b ≤ high then tailFault? ranges (seen + 1) rest else some (some seen)

/-- The first fault of `bytes`, of which the next `skip` belong to a character
already found well formed. -/
def faultFrom : (index skip : Nat) → Bytes → Option Fault
  | _, _, [] => none
  | index, skip + 1, _ :: rest => faultFrom (index + 1) skip rest
  | index, 0, lead :: rest =>
    if lead < 0x80 then faultFrom (index + 1) 0 rest
    else match tails? lead with
      | none => some { index, length := some 1 }
      | some ranges =>
        match tailFault? ranges 1 rest with
        | some length => some { index, length }
        | none => faultFrom (index + 1) ranges.length rest

/-- The first fault of a byte string, or `none` if it is UTF-8. -/
def fault? (bytes : Bytes) : Option Fault := faultFrom 0 0 bytes

end SocketGate.Text.Utf8
