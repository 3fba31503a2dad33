import Harvest.Time.Instant

/-!
The two clocks of a program: the calendar, which can be set, and the time since the start, which
only grows.
-/

namespace Harvest

/-- What the clocks show. -/
structure Clocks where
  now : Instant
  /-- Nanoseconds since the start. -/
  uptime : Nat
  deriving DecidableEq

end Harvest
