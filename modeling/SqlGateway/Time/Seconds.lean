import SqlGateway.Number.Binary64
import SqlGateway.Number.Fixed
set_option autoImplicit false

/-!
# Time: seconds

Deadlines and durations are read from a clock that only goes forward.  Its readings
and their differences are exact; they are rounded where they are shown.

Exact rationals stand in for the doubles that a clock yields.  A sum or a difference of
doubles is rounded to the nearest one, so that a deadline can lie half a unit in the last
place beside the exact one.  What is proved of deadlines here is proved of exact ones.
-/

namespace SqlGateway

/-- A reading of the clock, or the time between two readings, without rounding. -/
abbrev Seconds := Rat

namespace Seconds

/-- The earlier of two moments. -/
def earlier (s t : Seconds) : Seconds := if s ≤ t then s else t

/-- The later of two moments. -/
def later (s t : Seconds) : Seconds := if s ≤ t then t else s

/-- Seconds with three places. -/
def shown (s : Seconds) : String := Number.fixedPlaces 3 s

/-- Milliseconds, as the nearest double. -/
def milliseconds (s : Seconds) : Binary64 := .ofRat (s * 1000)

/-- Milliseconds with three places, as the nearest double. -/
def shortMilliseconds (s : Seconds) : Binary64 :=
  let n := Number.roundQuotient (s.num.natAbs * 1000000) s.den
  .ofQuotient (s.num < 0) n 1000

end Seconds

end SqlGateway
