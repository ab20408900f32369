import SocketGate.Frame.CloseReason
import SocketGate.Size

/-!
# `SocketGate.Text.Boundary`: cutting a text at an index

A text can be cut at an index into its UTF-8 form if no character reaches over it. From an index
that is inside of a character the search for such a place goes back one byte after the other. It
has no outcome if it would leave the bytes, and a cut has none if it would leave half a character.

`CloseReason.of?` is the reason that `CloseReason.of` builds, with its text cut at an index.
-/

set_option autoImplicit false

namespace SocketGate

namespace Text

/-- Whether a byte of a text starts a character. The bytes from 80 to BF are inside of one. -/
def startsChar (byte : UInt8) : Bool := byte < 0x80 || 0xC0 ≤ byte

/-- Whether no character reaches over an index: it is the start or the end of the text, or a
character starts there. -/
def isBoundary (text : Bytes) (index : Nat) : Bool :=
  index = 0 || index = text.length || text[index]?.any startsChar

/-- The last index up to this one that no character reaches over. -/
def boundaryBefore? (text : Bytes) : (index : Nat) → Sized Nat
  | 0 => if isBoundary text 0 then .ok 0 else .error .range
  | index + 1 =>
    if isBoundary text (index + 1) then .ok (index + 1) else boundaryBefore? text index

/-- The text without what is behind an index, which must not be inside of a character. -/
def truncate? (index : Nat) (text : String) : Sized String :=
  if text.utf8ByteSize < index then .ok text
  else match Bytes.toText? ((Bytes.ofText text).take index) with
    | some front => .ok front
    | none => .error .range

end Text

/-- A reason whose text is cut to what fits into a close frame. -/
def CloseReason.of? (code : CloseCode) (text : String) : Sized CloseReason := do
  if text.utf8ByteSize ≤ maxText then return { code, text }
  let stop ← Text.boundaryBefore? (Bytes.ofText text) maxText
  let front ← Text.truncate? stop text
  return { code, text := front }

end SocketGate
