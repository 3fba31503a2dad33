import Harvest.Collect.RunResult
import Harvest.Decimal.Places
import Harvest.Time.Rfc3339

/-!
The report of a batch: a few lines for each feed, then totals.
-/

namespace Harvest.Report

open Collect

structure BatchSummary where
  feeds : Nat
  succeeded : Nat
  transientFailures : Nat
  terminalFailures : Nat
  fetched : Nat
  stored : Nat
  skipped : Nat
  entryErrors : Nat
  deriving DecidableEq

namespace BatchSummary

def empty : BatchSummary := ⟨0, 0, 0, 0, 0, 0, 0, 0⟩

/-- Adds one feed. Its failure as a whole is no entry error. -/
def add (s : BatchSummary) (r : RunResult) : BatchSummary :=
  { feeds := s.feeds + 1
    succeeded := s.succeeded + (if r.failure = none then 1 else 0)
    transientFailures := s.transientFailures + (if r.failure = some .transient then 1 else 0)
    terminalFailures := s.terminalFailures + (if r.failure = some .terminal then 1 else 0)
    fetched := s.fetched + r.fetched
    stored := s.stored + r.stored
    skipped := s.skipped + r.skipped
    entryErrors := s.entryErrors + (r.errors.length - (if r.failure.isSome then 1 else 0)) }

/-- The totals of a batch. -/
def ofResults (results : List RunResult) : BatchSummary := results.foldl add empty

end BatchSummary

/-- A duration as a double of seconds. -/
def secondsOf (nanos : Nat) : Float :=
  Float.ofNat (nanos / 1000000000) + Float.ofNat (nanos % 1000000000) / 1000000000.0

private def statusText : Option FailureKind → String
  | none => "ok"
  | some kind => "failed (" ++ kind.name ++ ")"

private def windowLines (r : RunResult) : List String :=
  match r.actualStart, r.windowEnd with
  | some start, some stop =>
    ["  window: " ++ Rfc3339.withOffset start ++ " .. " ++ Rfc3339.withOffset stop ++
      " (gap " ++ toString r.gapSeconds ++ "s, overlap " ++ toString r.overlapSeconds ++ "s)"]
  | _, _ => []

/-- The lines on one feed. -/
def feedLines (r : RunResult) : List String :=
  [r.feed ++ " [" ++ statusText r.failure ++ "] fetched: " ++ toString r.fetched ++
    ", stored: " ++ toString r.stored ++ ", skipped: " ++ toString r.skipped ++
    ", took " ++ Decimal.fixed 1 (secondsOf r.duration) ++ "s"] ++
  windowLines r ++ r.errors.map ("  ! " ++ ·)

private def summaryLines (s : BatchSummary) : List String :=
  ["Feeds: " ++ toString s.feeds ++ " (" ++ toString s.succeeded ++ " ok, " ++
      toString s.transientFailures ++ " transient failures, " ++
      toString s.terminalFailures ++ " terminal failures)",
    "Items: " ++ toString s.fetched ++ " fetched, " ++ toString s.stored ++ " stored, " ++
      toString s.skipped ++ " skipped, " ++ toString s.entryErrors ++ " entry errors"]

/-- Lines as text, each with its end. -/
def linesText (lines : List String) : String := String.join (lines.map (· ++ "\n"))

/-- The report on a batch. -/
def batchText (results : List RunResult) : String :=
  linesText (["=== Collection Results ===", ""] ++ results.flatMap feedLines ++ [""] ++
    summaryLines (.ofResults results))

end Harvest.Report
