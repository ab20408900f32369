import SocketGate.Bytes

/-!
# `SocketGate.Base64`: the base64 encoding

The encoding of RFC 4648, section 4, in its canonical form: the alphabet with
`+` and `/`, padding to a multiple of four letters, and zeros in the bits that
the padding leaves over. `Base64.decode?` refuses everything else, so a byte
string has exactly one encoding that is read back.
-/

set_option autoImplicit false

namespace SocketGate.Base64

/-- The letter of a six-bit value. -/
def letter (value : Nat) : Char :=
  if value < 26 then Char.ofNat ('A'.toNat + value)
  else if value < 52 then Char.ofNat ('a'.toNat + (value - 26))
  else if value < 62 then Char.ofNat ('0'.toNat + (value - 52))
  else if value = 62 then '+'
  else '/'

/-- The six-bit value of a letter. -/
def value? (c : Char) : Option Nat :=
  if 'A' ≤ c ∧ c ≤ 'Z' then some (c.toNat - 'A'.toNat)
  else if 'a' ≤ c ∧ c ≤ 'z' then some (c.toNat - 'a'.toNat + 26)
  else if '0' ≤ c ∧ c ≤ '9' then some (c.toNat - '0'.toNat + 52)
  else if c = '+' then some 62
  else if c = '/' then some 63
  else none

/-- Three bytes at a time become four letters; a rest of one or two bytes is
padded. -/
def encodeChars : Bytes → List Char
  | a :: b :: c :: rest =>
    let n := Bytes.toNatBE [a, b, c]
    letter (n / 262144) :: letter (n / 4096 % 64) :: letter (n / 64 % 64) :: letter (n % 64) ::
      encodeChars rest
  | [a, b] =>
    -- Sixteen bits fill three letters but for two bits, which are zero.
    let n := Bytes.toNatBE [a, b] * 4
    [letter (n / 4096), letter (n / 64 % 64), letter (n % 64), '=']
  | [a] =>
    -- Eight bits fill two letters but for four bits.
    let n := a.toNat * 16
    [letter (n / 64), letter (n % 64), '=', '=']
  | [] => []

/-- The encoding of a byte string. -/
def encode (bytes : Bytes) : String := String.ofList (encodeChars bytes)

/-- One byte from two letters, whose last four bits must be zero. -/
def decodeOne? (a b : Char) : Option Bytes := do
  let n := (← value? a) * 64 + (← value? b)
  if n % 16 = 0 then some (Bytes.ofNatBE 1 (n / 16)) else none

/-- Two bytes from three letters, whose last two bits must be zero. -/
def decodeTwo? (a b c : Char) : Option Bytes := do
  let n := ((← value? a) * 64 + (← value? b)) * 64 + (← value? c)
  if n % 4 = 0 then some (Bytes.ofNatBE 2 (n / 4)) else none

/-- Three bytes from four letters. -/
def decodeThree? (a b c d : Char) : Option Bytes := do
  let n := (((← value? a) * 64 + (← value? b)) * 64 + (← value? c)) * 64 + (← value? d)
  some (Bytes.ofNatBE 3 n)

/-- Four letters at a time; only the last four may be padded. -/
def decodeChars? : List Char → Option Bytes
  | [] => some []
  | [a, b, '=', '='] => decodeOne? a b
  | [a, b, c, '='] => decodeTwo? a b c
  | a :: b :: c :: d :: rest => do
    let bytes ← decodeThree? a b c d
    return bytes ++ (← decodeChars? rest)
  | _ => none

/-- The byte string with this encoding, if there is one. -/
def decode? (text : String) : Option Bytes := decodeChars? text.toList

end SocketGate.Base64
