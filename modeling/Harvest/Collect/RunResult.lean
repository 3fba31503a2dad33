import Harvest.Collect.Fault
import Harvest.Collect.Window

/-!
The report of one feed's run: what was fetched, stored and skipped, and what went wrong.
-/

namespace Harvest.Collect

structure RunResult where
  feed : String
  sourceId : Option Int
  fetched : Nat
  stored : Nat
  skipped : Nat
  /-- The text of the feed's failure and of each entry that failed. -/
  errors : List String
  transientErrors : Nat
  terminalErrors : Nat
  failure : Option FailureKind
  expectedStart : Option Instant
  actualStart : Option Instant
  windowEnd : Option Instant
  gapSeconds : Int
  overlapSeconds : Int
  /-- How long the run took, in nanoseconds. -/
  duration : Nat
  deriving DecidableEq

namespace RunResult

def new (feed : String) : RunResult :=
  { feed, sourceId := none, fetched := 0, stored := 0, skipped := 0, errors := [],
    transientErrors := 0, terminalErrors := 0, failure := none, expectedStart := none,
    actualStart := none, windowEnd := none, gapSeconds := 0, overlapSeconds := 0, duration := 0 }

/-- Entries that fail do not make a run fail. -/
def isSuccess (r : RunResult) : Bool := r.failure.isNone

/-- Adds a failure of the feed as a whole. -/
def recordFailure (r : RunResult) (fault : Fault) : RunResult :=
  { r with
    errors := r.errors ++ ["[" ++ fault.kind.name ++ "] " ++ fault.message]
    transientErrors := r.transientErrors + (if fault.kind = .transient then 1 else 0)
    terminalErrors := r.terminalErrors + (if fault.kind = .terminal then 1 else 0)
    failure := some fault.kind }

/-- Adds a failure of one entry. -/
def recordEntryError (r : RunResult) (entry : String) (fault : Fault) : RunResult :=
  { r with errors := r.errors ++ [entry ++ ": " ++ fault.message] }

def withCoverage (r : RunResult) (coverage : Coverage) : RunResult :=
  { r with
    expectedStart := some coverage.expectedStart
    actualStart := some coverage.actualStart
    windowEnd := some coverage.windowEnd
    gapSeconds := coverage.gapSeconds
    overlapSeconds := coverage.overlapSeconds }

end RunResult

end Harvest.Collect
