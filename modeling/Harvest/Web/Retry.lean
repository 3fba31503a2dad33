import Harvest.Decimal.Read
import Harvest.Web.Pacing

/-!
How long to wait before a request is tried again: as long as the server asks for, or twice as long
each time with some jitter.
-/

namespace Harvest.Web

/-- Jitter stays at or below a quarter of a second. -/
def maxJitter : Nat := 250000000

/-- The delay before try `attempt + 1`: doubling seconds up to thirty, and jitter. -/
def backoff (attempt jitter : Nat) : Nat :=
  min (Nat.pow 2 (min attempt 16)) 30 * nanosPerSecond + min jitter maxJitter

/-- Whether a header can carry these bytes. -/
def isHeaderValue (bytes : List UInt8) : Bool :=
  bytes.all fun b => (32 ≤ b && b != 127) || b == 9

/-- Header bytes that are text. -/
def headerText? (bytes : List UInt8) : Option String :=
  if bytes.all fun b => (32 ≤ b && b < 127) || b == 9 then
    some (String.ofList (bytes.map fun b => Char.ofNat b.toNat))
  else none

/-- The delay that a `Retry-After` header asks for, in seconds with a fraction; dates do not count. -/
def retryAfter? (value : List UInt8) : Option Nat := do
  let text ← headerText? value
  let seconds ← Decimal.read? (Text.trim text)
  if seconds.isFinite && 0.0 ≤ seconds then durationOfSeconds? seconds else none

end Harvest.Web
