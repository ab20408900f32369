/-!
# `SocketGate.Decimal.Shortest`: the shortest decimal of a binary float

A double stands for a whole interval of real numbers, the ones that round to it.
`Shortest.digits` gives the fewest decimal digits that name a number of that
interval, and of those the nearest to the double itself. All of it is exact
arithmetic on natural numbers.
-/

set_option autoImplicit false

namespace SocketGate.Decimal

/-- A positive double `significand * 2 ^ exponent`, as its bits give it. -/
structure Binary where
  /-- The significand, without leading bits left out. -/
  significand : Nat
  exponent : Int
  deriving DecidableEq

/-- The leading bit of a significand, which a double leaves out unless it is among
the smallest. -/
def hiddenBit : Nat := 0x10000000000000

/-- The bits of a finite double other than zero. -/
def Binary.ofBits (bits : UInt64) : Binary :=
  let fraction := (bits &&& 0xFFFFFFFFFFFFF).toNat
  let biased := ((bits >>> 52) &&& 0x7FF).toNat
  -- The smallest doubles have no hidden bit, and the exponent of those just above them.
  if biased = 0 then ⟨fraction, -1074⟩ else ⟨fraction + hiddenBit, (biased : Int) - 1075⟩

/-- A quotient of natural numbers. -/
structure Ratio where
  num : Nat
  /-- The denominator, not zero. -/
  den : Nat

/-- `m * 2 ^ e` as a quotient. -/
def Ratio.scaled (m : Nat) (e : Int) : Ratio :=
  if 0 ≤ e then ⟨m * Nat.pow 2 e.toNat, 1⟩ else ⟨m, Nat.pow 2 (-e).toNat⟩

/-- A quotient in units of `10 ^ e`. -/
def Ratio.inUnits (r : Ratio) (e : Int) : Ratio :=
  if 0 ≤ e then ⟨r.num, r.den * Nat.pow 10 e.toNat⟩
  else ⟨r.num * Nat.pow 10 (-e).toNat, r.den⟩

namespace Binary

/-- The real numbers that round to a double: the lower and the upper end, and
whether the ends belong to it. Below a power of two the doubles lie half as far
apart. -/
def interval (x : Binary) : Ratio × Ratio × Bool :=
  -- The ends are half way to the next doubles, and an even significand gets both of them.
  let low :=
    if x.significand = hiddenBit ∧ -1074 < x.exponent then
      Ratio.scaled (4 * x.significand - 1) (x.exponent - 2)
    else Ratio.scaled (2 * x.significand - 1) (x.exponent - 1)
  let high := Ratio.scaled (2 * x.significand + 1) (x.exponent - 1)
  (low, high, x.significand % 2 = 0)

/-- Whether `n` lies in the interval from `low` to `high`. -/
def covers (low high : Ratio) (closed : Bool) (n : Nat) : Bool :=
  let below := n * low.den
  let above := n * high.den
  if closed then low.num ≤ below && above ≤ high.num else low.num < below && above < high.num

/-- The number on the decimal grid of step `10 ^ e` that names the double, if
there is one: of the two neighbours of the double, the nearer one that rounds to
it, and the even one if they are equally near. -/
def onGrid? (x : Binary) (e : Int) : Option Nat :=
  let value := (Ratio.scaled x.significand x.exponent).inUnits e
  let (low, high, closed) := x.interval
  let hits := covers (low.inUnits e) (high.inUnits e) closed
  let floor := value.num / value.den
  -- Twice the remainder tells which of the two neighbours is nearer.
  let twice := 2 * (value.num % value.den)
  let upFirst := value.den < twice || (twice = value.den && floor % 2 = 1)
  let (near, far) := if upFirst then (floor + 1, floor) else (floor, floor + 1)
  if hits near then some near else if hits far then some far else none

/-- The exponent of ten of the first digit. -/
def leading (x : Binary) : Int :=
  let value := Ratio.scaled x.significand x.exponent
  if value.den ≤ value.num then
    ((Nat.toDigits 10 (value.num / value.den)).length : Int) - 1
  else
    -- Below one, the digits of the inverse count the zeros behind the point.
    0 - ((Nat.toDigits 10 ((value.den - 1) / value.num)).length : Int)

/-- Without the zeros at the end of `n`, which raise the exponent instead. -/
def stripZeros : (fuel n : Nat) → (e : Int) → Nat × Int
  | 0, n, e => (n, e)
  | fuel + 1, n, e => if n % 10 = 0 then stripZeros fuel (n / 10) (e + 1) else (n, e)

/-- Try grids of one digit, two digits and so on; seventeen always suffice. -/
def search (x : Binary) (first : Int) : (fuel : Nat) → (e : Int) → Nat × Int
  | 0, e => (0, e)
  | fuel + 1, e =>
    match x.onGrid? e with
    | some n => stripZeros 20 n e
    | none => search x first fuel (e - 1)

/-- The shortest decimal `digits * 10 ^ exponent` of a double other than zero. -/
def shortest (x : Binary) : Nat × Int :=
  search x x.leading 20 x.leading

end Binary

end SocketGate.Decimal
