import Harvest.Time.Instant

/-!
The stretch of time a run covers. A source's watermark marks where coverage ended; a run plans to
start there, or some margin before it, and afterwards tells where it really started. A gap is time
that nobody collected, an overlap is time collected twice.
-/

namespace Harvest.Collect

/-- Where a run should resume, and where it starts with its margin. -/
structure WindowPlan where
  expectedStart : Instant
  actualStart : Instant
  deriving DecidableEq

/-- The longest span of whole seconds that can be reckoned with, in milliseconds of 64 bits. -/
def longestReach : Nat := (Nat.pow 2 63 - 1) / 1000

/-- So many seconds before an instant, or the earliest instant if that is out of reach. -/
def reachBack (t : Instant) (seconds : Nat) : Instant :=
  if longestReach < seconds then .earliest else (t.minus seconds).getD .earliest

/-- The window of a run that starts at `now`: from the watermark on, or a few hours back for a source
that was never collected. -/
def WindowPlan.compute (watermark : Option Instant) (now : Instant)
    (lookbackHours overlapSeconds : Int) : WindowPlan :=
  match watermark with
  | none =>
    let start := reachBack now ((max lookbackHours 1).toNat * 3600)
    ⟨start, start⟩
  | some expected => ⟨expected, reachBack expected (max overlapSeconds 0).toNat⟩

/-- The range of timestamps seen among a run's entries. -/
structure ObservedRange where
  earliest : Option Instant
  latest : Option Instant
  deriving DecidableEq

namespace ObservedRange

def empty : ObservedRange := ⟨none, none⟩

def record (range : ObservedRange) (t : Instant) : ObservedRange :=
  { earliest := some (match range.earliest with
      | some e => min e t
      | none => t)
    latest := some (match range.latest with
      | some l => max l t
      | none => t) }

def isEmpty (range : ObservedRange) : Bool := range.earliest.isNone

end ObservedRange

/-- What a finished run covered. -/
structure Coverage where
  expectedStart : Instant
  actualStart : Instant
  observedEnd : Instant
  windowEnd : Instant
  gapSeconds : Int
  overlapSeconds : Int
  deriving DecidableEq

/-- The coverage of a run, from the earliest timestamp seen up to `now`. -/
def WindowPlan.observe (plan : WindowPlan) (observed : ObservedRange) (now : Instant) : Coverage :=
  let actualStart := observed.earliest.getD plan.actualStart
  let delta := actualStart.secondsSince plan.expectedStart
  { expectedStart := plan.expectedStart
    actualStart
    observedEnd := observed.latest.getD now
    windowEnd := now
    gapSeconds := max delta 0
    overlapSeconds := max (-delta) 0 }

/-- The watermark after a successful run; it never moves back. -/
def advanceWatermark (previous : Option Instant) (windowEnd : Instant) : Instant :=
  match previous with
  | some previous => if windowEnd < previous then previous else windowEnd
  | none => windowEnd

end Harvest.Collect
