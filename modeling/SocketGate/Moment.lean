/-!
# `SocketGate.Moment`: when something happens

Much can happen in one millisecond. A moment is the time on the clock together
with the number of steps that were made before it, so no two steps are made at
the same moment.
-/

set_option autoImplicit false

namespace SocketGate

/-- A moment. -/
structure Moment where
  /-- The time in milliseconds. -/
  time : Nat := 0
  /-- How many steps were made before. -/
  steps : Nat := 0
  deriving DecidableEq

namespace Moment

/-- The moment after a step. -/
def next (moment : Moment) : Moment := { moment with steps := moment.steps + 1 }

/-- The moment when some time has passed. -/
def later (moment : Moment) (milliseconds : Nat) : Moment :=
  { moment with time := moment.time + milliseconds }

/-- Whether a moment is no later than another. -/
def isBefore (a b : Moment) : Bool :=
  a.time < b.time || (a.time == b.time && decide (a.steps ≤ b.steps))

end Moment

end SocketGate
