import SocketGate.Bytes
import SocketGate.Json.Fault

/-!
# `SocketGate.Json.Cursor`: reading a JSON text byte by byte

A cursor is the rest of a text together with the place where it begins. A parser
is a function of the cursor that fails with a fault. A fault can be noticed at
the cursor, or at the next byte, whose place counts that byte as read.
-/

set_option autoImplicit false

namespace SocketGate.Json

/-- The rest of a text. -/
structure Cursor where
  rest : Bytes
  place : Place

namespace Cursor

/-- The beginning of a text. -/
def start (text : Bytes) : Cursor := ⟨text, ⟨1, 0⟩⟩

/-- The place after one more byte. -/
def step (place : Place) (b : UInt8) : Place :=
  if b = 0x0A then ⟨place.line + 1, 0⟩ else ⟨place.line, place.column + 1⟩

/-- Read the bytes that satisfy `p`. -/
def skipFrom (p : UInt8 → Bool) : Bytes → Place → Cursor
  | [], place => ⟨[], place⟩
  | b :: rest, place => if p b then skipFrom p rest (step place b) else ⟨b :: rest, place⟩

/-- The place of the next byte, counting it as read; at the end, the end. -/
def nextPlace (cursor : Cursor) : Place :=
  match cursor.rest with
  | [] => cursor.place
  | b :: _ => step cursor.place b

end Cursor

/-- A parser of values of type `α`. -/
abbrev Parse (α : Type) := StateT Cursor (Except Fault) α

namespace Parse

/-- Fail at the cursor. -/
def fail {α : Type} (cause : Cause) : Parse α := fun cursor =>
  .error ⟨cause, some cursor.place⟩

/-- Fail at the next byte. -/
def failNext {α : Type} (cause : Cause) : Parse α := fun cursor =>
  .error ⟨cause, some cursor.nextPlace⟩

/-- Fail without a place. -/
def failNowhere {α : Type} (cause : Cause) : Parse α := fun _ =>
  .error ⟨cause, none⟩

/-- The next byte, left unread. -/
def peek : Parse (Option UInt8) := fun cursor => .ok (cursor.rest.head?, cursor)

/-- Read one byte. -/
def next : Parse (Option UInt8) := fun cursor =>
  match cursor.rest with
  | [] => .ok (none, cursor)
  | b :: rest => .ok (some b, ⟨rest, Cursor.step cursor.place b⟩)

/-- Skip one byte. -/
def skip : Parse Unit := do
  let _ ← next

/-- How many bytes are left, as a bound on what can still be read. -/
def fuel : Parse Nat := fun cursor => .ok (cursor.rest.length + 1, cursor)

/-- Skip spaces, tabs, line feeds and carriage returns, and look at the next
byte. -/
def peekPastBlanks : Parse (Option UInt8) := do
  modify fun cursor =>
    Cursor.skipFrom (fun b => b == 0x20 || b == 0x09 || b == 0x0A || b == 0x0D) cursor.rest
      cursor.place
  peek

/-- Whether a byte is a decimal digit. -/
def isDigit (b : UInt8) : Bool := 0x30 ≤ b && b ≤ 0x39

/-- Whether the next byte is a decimal digit. -/
def atDigit : Parse Bool := return (← peek).any isDigit

/-- Skip decimal digits. -/
def skipDigits : Parse Unit :=
  modify fun cursor => Cursor.skipFrom isDigit cursor.rest cursor.place

/-- Read digits of the rest into `digits`, as long as the number stays below
`2 ^ 64`; also how many there were. -/
def takeDigitsFrom : Bytes → Place → (digits : UInt64) → (count : Nat) → (UInt64 × Nat) × Cursor
  | [], place, digits, count => ((digits, count), ⟨[], place⟩)
  | b :: rest, place, digits, count =>
    let longer := digits.toNat * 10 + (b.toNat - 0x30)
    if isDigit b && longer < UInt64.size then
      takeDigitsFrom rest (Cursor.step place b) (UInt64.ofNat longer) (count + 1)
    else ((digits, count), ⟨b :: rest, place⟩)

/-- Read digits into `digits`, as long as the number stays below `2 ^ 64`. -/
def takeDigits (digits : UInt64) : Parse (UInt64 × Nat) := fun cursor =>
  .ok (takeDigitsFrom cursor.rest cursor.place digits 0)

/-- Read the rest of a word. -/
def word : List UInt8 → Parse Unit
  | [] => return
  | expected :: rest => do
    match ← next with
    | none => fail .endInValue
    | some b => if b = expected then word rest else fail .expectedIdent

end Parse

end SocketGate.Json
