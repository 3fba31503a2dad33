import Harvest.Report.Batch
import Harvest.Store.Basic

/-!
Statistics of a store: how many items there are with each status and of each source, which sources
keep failing, and which were never collected.
-/

namespace Harvest.Report

/-- A source and the number of its items. -/
structure SourceItems where
  source : Source
  items : Nat

structure Statistics where
  total : Nat
  /-- The statuses that occur, in the order of reports. -/
  byStatus : List (ItemStatus × Nat)
  /-- Every source, by name. -/
  sources : List SourceItems

namespace Statistics

/-- The statistics of a store, if every source can be read. -/
def ofStore (store : Store) : Except Store.Error Statistics := do
  let sources ← store.listSources
  return { total := store.countItems
           byStatus := (ItemStatus.all.map fun status =>
             (status, store.countItemsWith status)).filter fun entry => entry.2 != 0
           sources := sources.map fun source => ⟨source, store.countItemsOf source.id⟩ }

/-- The sources whose last run failed. -/
def failing (s : Statistics) : List SourceItems := s.sources.filter fun e => e.source.errorCount != 0

/-- The sources without a successful run. -/
def neverCollected (s : Statistics) : List SourceItems :=
  s.sources.filter fun e => e.source.watermark.isNone

end Statistics

/-- A part of a whole in percent. -/
def percentage (part total : Nat) : Float := Float.ofNat part / Float.ofNat total * 100.0

private def statusLine (total : Nat) (entry : ItemStatus × Nat) : String :=
  "  " ++ entry.1.name ++ ": " ++ toString entry.2 ++ " (" ++
    Decimal.fixed 1 (percentage entry.2 total) ++ "%)"

private def sourceLine (e : SourceItems) : String :=
  "  - " ++ e.source.name ++ " [" ++ e.source.url ++ "] items: " ++ toString e.items ++
    ", covered until: " ++ (e.source.watermark.map Rfc3339.withOffset).getD "never" ++
    (if e.source.active then "" else " (inactive)")

private def failureLine (e : SourceItems) : String :=
  "  - " ++ e.source.name ++ ": " ++ toString e.source.errorCount ++
    " consecutive failures, last error: " ++ e.source.lastError.getD "-"

private def failingLines (failing : List SourceItems) : List String :=
  if failing.isEmpty then []
  else ["Failing Sources (" ++ toString failing.length ++ "):"] ++ failing.map failureLine ++ [""]

private def neverLines (never : Nat) : List String :=
  if never = 0 then [] else ["Sources never collected successfully: " ++ toString never]

/-- The report on a store. -/
def statisticsText (s : Statistics) : String :=
  linesText (
    ["=== Collection Statistics ===", "", "Overview:",
      "  Sources: " ++ toString s.sources.length, "  Items stored: " ++ toString s.total, "",
      "Items by Status:"] ++ s.byStatus.map (statusLine s.total) ++ ["", "Sources:"] ++
    s.sources.map sourceLine ++ [""] ++ failingLines s.failing ++
    neverLines s.neverCollected.length)

end Harvest.Report
