import SocketGate.Decimal.Shortest

/-!
# `SocketGate.Json.Number`: numbers of JSON texts

A number without fraction and exponent is an integer as long as it fits into 64
bits, with or without a sign; every other number is a double. `Float.text` is
how a double is shown: its shortest digits, with an exponent where the decimal
point would lie far from them.
-/

set_option autoImplicit false

namespace SocketGate.Json

/-- A number of a JSON text. -/
inductive Number where
  | unsigned (value : UInt64)
  | negative (value : Int)
  | float (value : Float)

/-- The digits of a number with `point` digits before the decimal point, which
is not above their count. -/
def pointed (digits : List Char) (point : Nat) : String :=
  String.ofList (digits.take point) ++ "." ++ String.ofList (digits.drop point)

/-- An exponent, always with its sign. -/
def exponentText (e : Int) : String :=
  (if e < 0 then "e-" else "e+") ++ toString e.natAbs

/-- A positive number `digits * 10 ^ exponent`. The decimal point is written
where the first digit stands at most five places behind it or sixteen places
before it. -/
def decimalText (digits : Nat) (exponent : Int) : String :=
  let shown := Nat.toDigits 10 digits
  let leading := exponent + shown.length - 1
  -- An integer, a fraction with digits before the point, one without, and two with an exponent.
  if 0 ≤ exponent ∧ leading ≤ 15 then
    String.ofList (shown ++ List.replicate exponent.toNat '0') ++ ".0"
  else if 0 ≤ leading ∧ leading ≤ 15 then pointed shown (leading.toNat + 1)
  else if -5 ≤ leading ∧ leading < 0 then
    "0." ++ String.ofList (List.replicate (-leading - 1).toNat '0' ++ shown)
  else if shown.length = 1 then String.ofList shown ++ exponentText leading
  else pointed shown 1 ++ exponentText leading

/-- How a finite double is shown. -/
def floatText (x : Float) : String :=
  let bits := x.toBits
  let sign := if bits >>> 63 = 1 then "-" else ""
  if bits &&& 0x7FFFFFFFFFFFFFFF = 0 then sign ++ "0.0"
  else
    let (digits, exponent) := (Decimal.Binary.ofBits bits).shortest
    sign ++ decimalText digits exponent

namespace Number

/-- The number with these digits and this sign. A zero with a sign is a double,
and so is an integer that is too small for 64 bits. -/
def ofDigits (positive : Bool) (digits : UInt64) : Number :=
  if positive then .unsigned digits
  else if digits = 0 || 0x8000000000000000 < digits then .float (-digits.toFloat)
  else .negative (-(digits.toNat : Int))

/-- `1e308`, the largest power of ten among the doubles. -/
def maxPower : Nat := 308

/-- Scale by a power of ten, in steps of at most `maxPower`; `none` if the result
is too large. A number that has become zero stays zero. -/
def scale : (fuel : Nat) → (x : Float) → (exponent : Int) → Option Float
  | 0, x, _ => some x
  | fuel + 1, x, exponent =>
    if exponent.natAbs ≤ maxPower then
      let power := Float.ofScientific 1 false exponent.natAbs
      if 0 ≤ exponent then
        let y := x * power
        if y.isInf then none else some y
      else some (x / power)
    else if x == 0.0 then some x
    else if 0 ≤ exponent then none
    -- Too small for one step, so divide by the largest power first.
    else scale fuel (x / Float.ofScientific 1 false maxPower) (exponent + maxPower)

/-- The double `digits * 10 ^ exponent` with a sign, or `none` if it is too
large. -/
def ofDecimal? (positive : Bool) (digits : UInt64) (exponent : Int) : Option Number :=
  (scale 4 digits.toFloat exponent).map fun x => .float (if positive then x else -x)

end Number

end SocketGate.Json
