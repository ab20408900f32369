import SocketGate.Json.Cursor

/-!
# `SocketGate.Json.Scalar`: numbers and strings of JSON texts
-/

set_option autoImplicit false

namespace SocketGate.Json.Parse

/-! ### Numbers -/

/-- The double with these digits. -/
def decimal (positive : Bool) (digits : UInt64) (exponent : Int) : Parse Number :=
  match Number.ofDecimal? positive digits exponent with
  | some number => return number
  | none => fail .numberOutOfRange

/-- Skip a sign of an exponent; whether the exponent is positive. -/
def exponentSign : Parse Bool := do
  -- 0x2B is a plus sign and 0x2D a minus sign.
  match ← peek with
  | some 0x2B => skip; return true
  | some 0x2D => skip; return false
  | _ => return true

/-- Read digits of an exponent up to `2 ^ 31`; `none` if it would not stay below
that. The first digit too many has then been read. -/
def exponentDigits : (fuel exponent : Nat) → Parse (Option Nat)
  | 0, exponent => return some exponent
  | fuel + 1, exponent => do
    match ← peek with
    | some b =>
      if isDigit b then
        skip
        let longer := exponent * 10 + (b.toNat - 0x30)
        if longer < 0x80000000 then exponentDigits fuel longer else return none
      else return some exponent
    | none => return some exponent

/-- Read the rest of a number from its `e` on. An exponent that is out of all
bounds gives zero or is too large. -/
def exponent (positive : Bool) (digits : UInt64) (shift : Int) : Parse Number := do
  skip
  let up ← exponentSign
  match ← next with
  | none => fail .endInValue
  | some b =>
    if !isDigit b then fail .invalidNumber
    else match ← exponentDigits (← fuel) (b.toNat - 0x30) with
      | some e => decimal positive digits (if up then shift + e else shift - e)
      | none =>
        -- A zero stays zero, however large the exponent is.
        if digits ≠ 0 ∧ up then fail .numberOutOfRange
        else
          skipDigits
          return .float (if positive then 0.0 else -0.0)

/-- Read an exponent if there is one, and finish the number. -/
def exponentOrEnd (positive : Bool) (digits : UInt64) (shift : Int) : Parse Number := do
  match ← peek with
  | some 0x65 | some 0x45 => exponent positive digits shift
  | _ => decimal positive digits shift

/-- Read the rest of a number from its decimal point on. Digits that do not fit
into 64 bits are dropped. -/
def fraction (positive : Bool) (digits : UInt64) (shift : Int) : Parse Number := do
  skip
  let (digits, count) ← takeDigits digits
  if ← atDigit then
    skipDigits
  else if count = 0 then
    match ← peek with
    | some _ => failNext .invalidNumber
    | none => fail .endInValue
  exponentOrEnd positive digits (shift - count)

/-- Read the rest of a number whose integer part is `digits`, with `dropped`
digits after them that did not fit. -/
def afterInteger (positive : Bool) (digits : UInt64) (dropped : Nat) : Parse Number := do
  match ← peek with
  | some 0x2E => fraction positive digits dropped
  | some 0x65 | some 0x45 => exponent positive digits dropped
  | _ =>
    if dropped = 0 then return Number.ofDigits positive digits
    else decimal positive digits dropped

/-- How many digits were skipped. -/
def countDigits : Parse Nat := do
  let before ← fuel
  skipDigits
  return before - (← fuel)

/-- Read a number, without its minus sign. -/
def number (positive : Bool) : Parse Number := do
  match ← next with
  | none => fail .endInValue
  | some b =>
    -- No other digit follows a zero in front.
    if b = 0x30 then
      if ← atDigit then failNext .invalidNumber else afterInteger positive 0 0
    else if isDigit b then
      let (digits, _) ← takeDigits (UInt64.ofNat (b.toNat - 0x30))
      afterInteger positive digits (← countDigits)
    else fail .invalidNumber

/-- Skip the digits of an exponent, from its `e` on. -/
def ignoreExponent : Parse Unit := do
  skip
  let _ ← exponentSign
  match ← next with
  | some b => if isDigit b then skipDigits else fail .invalidNumber
  | none => fail .invalidNumber

/-- Skip an exponent if there is one. -/
def ignoreExponentOrEnd : Parse Unit := do
  match ← peek with
  | some 0x65 | some 0x45 => ignoreExponent
  | _ => return

/-- Skip a number, without its minus sign. -/
def ignoreNumber : Parse Unit := do
  match ← next with
  | some b =>
    if b = 0x30 then
      if ← atDigit then failNext .invalidNumber
    else if isDigit b then skipDigits
    else fail .invalidNumber
  | none => fail .invalidNumber
  if (← peek) = some 0x2E then
    skip
    if ← atDigit then skipDigits else failNext .invalidNumber
  ignoreExponentOrEnd

/-! ### Strings -/

/-- The value of a hexadecimal digit. -/
def hexValue? (b : UInt8) : Option Nat :=
  if isDigit b then some (b.toNat - 0x30)
  else if 0x61 ≤ b ∧ b ≤ 0x66 then some (b.toNat - 0x61 + 10)
  else if 0x41 ≤ b ∧ b ≤ 0x46 then some (b.toNat - 0x41 + 10)
  else none

/-- Skip everything. -/
def skipAll : Parse Unit :=
  modify fun cursor => Cursor.skipFrom (fun _ => true) cursor.rest cursor.place

/-- Read four hexadecimal digits. -/
def hexUnit : Parse Nat := do
  let cursor ← get
  match Bytes.splitExact? 4 cursor.rest with
  | none =>
    skipAll
    fail .endInString
  | some (digits, _) =>
    -- All four are read before one of them is refused, which decides the place of the fault.
    skip; skip; skip; skip
    match digits.mapM hexValue? with
    | some values => return values.foldl (fun n v => n * 16 + v) 0
    | none => fail .invalidEscape

/-- Read one byte that has to be `expected`, inside a string. -/
def pairByte (expected : UInt8) : Parse Unit := do
  match ← next with
  | none => fail .endInString
  | some b => if b = expected then return else fail .unfinishedPair

/-- Read the rest of an escape by number. A character outside the basic plane
takes two of them. -/
def unicodeEscape : Parse Char := do
  let unit ← hexUnit
  -- A second half cannot come first, and a first half needs another escape behind it.
  if 0xDC00 ≤ unit ∧ unit ≤ 0xDFFF then fail .loneSurrogate
  else if 0xD800 ≤ unit ∧ unit ≤ 0xDBFF then
    pairByte 0x5C
    pairByte 0x75
    let second ← hexUnit
    if 0xDC00 ≤ second ∧ second ≤ 0xDFFF then
      return Char.ofNat (0x10000 + (unit - 0xD800) * 0x400 + (second - 0xDC00))
    else fail .loneSurrogate
  else return Char.ofNat unit

/-- The character of an escape of one letter. -/
def shortEscape? (b : UInt8) : Option Char :=
  match b.toNat with
  | 0x22 => some '"'
  | 0x5C => some '\\'
  | 0x2F => some '/'
  | 0x62 => some '\x08'
  | 0x66 => some '\x0c'
  | 0x6E => some '\n'
  | 0x72 => some '\r'
  | 0x74 => some '\t'
  | _ => none

/-- Read an escape, after its backslash. -/
def escape : Parse Char := do
  match ← next with
  | none => fail .endInString
  | some b =>
    if b = 0x75 then unicodeEscape
    else match shortEscape? b with
      | some c => return c
      | none => fail .invalidEscape

/-- Read the rest of a string; `bytes` are the ones before. -/
def stringFrom : (fuel : Nat) → (bytes : Array UInt8) → Parse Bytes
  | 0, bytes => return bytes.toList
  | fuel + 1, bytes => do
    match ← next with
    | none => fail .endInString
    | some b =>
      -- A quotation mark ends the string, and a backslash begins an escape.
      if b = 0x22 then return bytes.toList
      else if b = 0x5C then
        let c ← escape
        stringFrom fuel (bytes ++ (Bytes.ofText c.toString).toArray)
      else if b < 0x20 then fail .controlCharacter
      else stringFrom fuel (bytes.push b)

/-- Read a string, after its first quotation mark. -/
def string : Parse String := do
  return (Bytes.toText? (← stringFrom (← fuel) #[])).getD ""

/-- Skip an escape, after its backslash. Surrogates are not paired. -/
def ignoreEscape : Parse Unit := do
  match ← next with
  | none => fail .endInString
  | some b =>
    if b = 0x75 then
      let _ ← hexUnit
    else if (shortEscape? b).isNone then fail .invalidEscape

/-- Skip the rest of a string. -/
def ignoreStringFrom : (fuel : Nat) → Parse Unit
  | 0 => return
  | fuel + 1 => do
    match ← peek with
    | none => fail .endInString
    | some b =>
      if b < 0x20 then fail .controlCharacter
      else
        skip
        if b = 0x22 then return
        else if b = 0x5C then
          ignoreEscape
          ignoreStringFrom fuel
        else ignoreStringFrom fuel

/-- Skip a string, after its first quotation mark. -/
def ignoreString : Parse Unit := do
  ignoreStringFrom (← fuel)

end SocketGate.Json.Parse
