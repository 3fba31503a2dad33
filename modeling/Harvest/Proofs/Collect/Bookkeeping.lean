import Harvest.Proofs.Collect.Batch
import Harvest.Proofs.Collect.Run
import Harvest.Proofs.Config.Validation
import Harvest.Proofs.Json.Nesting
import Harvest.Proofs.Store.Bookkeeping

/-!
The bookkeeping of every source is the fold of its own runs: whatever is collected side by side and
one after the other, and however the calendar is set, a row tells of the runs that resolved it and of
nothing else. A run that cannot read its source back resolves nothing and leaves no trace.
-/

namespace Harvest

namespace Collect

/-- A run that came to its end. -/
structure Run where
  job : Job
  /-- What the calendar showed when the run started, and when it ended. -/
  begun : Instant
  ended : Instant
  result : RunResult

/-- The text of the fault that ended a run: the last error without the kind of the failure in front. -/
def RunResult.faultText (r : RunResult) : String :=
  let kind := r.failure.elim "" fun kind => "[" ++ kind.name ++ "] "
  String.ofList ((r.errors.getLast?.getD "").toList.drop kind.length)

namespace Run

def url (run : Run) : String := run.job.feed.url

def isSuccess (run : Run) : Bool := run.result.isSuccess

end Run

namespace Course

/-- The run of a job, by its index, if it came to its end. -/
def run? (course : Course) (store : Store) (index : Nat) : Option Run := do
  let job ← course.jobs[index]?
  let begun ← (Batch.new store course.width course.jobs).firstWhen (Batch.hasStarted index) course.events
  let ended ← (Batch.new store course.width course.jobs).firstWhen (Batch.hasEnded index) course.events
  match (course.batch store).started[index]? with
  | some (.done report) => some ⟨job, begun.now, ended.now, report.result⟩
  | _ => none

def runs (course : Course) (store : Store) : List Run :=
  (List.range course.jobs.length).filterMap (course.run? store)

/-- Some feeds of a valid configuration are collected, in years of four digits. -/
structure IsValid (course : Course) : Prop where
  jobs : ∃ (config : Config) (maxRetries : Nat), config.validate = .ok () ∧
    course.jobs.Sublist (config.feeds.map fun feed => ⟨config, feed, maxRetries⟩)
  years : ∀ e ∈ course.events, e.1.now.HasFourDigitYear

end Course

end Collect

namespace Bookkeeping

open Collect (Run)

def after (book : Bookkeeping) (run : Run) : Bookkeeping :=
  if run.isSuccess then book.succeed run.begun run.ended else book.fail run.result.faultText

end Bookkeeping

namespace Collect

open Web (Terms)

/-! ### One run -/

/-- A run writes to the row of its own feed only, and counts on the others not to. -/
def bookkeeping (job : Job) : Terms Store where
  shown clocks := clocks.now.HasFourDigitYear
  others store later := store.IsKept → later.IsKept ∧ later.feedRow? job.feed.url = store.feedRow? job.feed.url
  own store later := store.IsKept → later.IsKept ∧
    ∀ url, url ≠ job.feed.url → later.feedRow? url = store.feedRow? url

/-- What holds from the turn that resolved a source to the last turn of the run: its row is as it was
read, and keeps what was kept of it when the run started. -/
private def Resolved (job : Job) (start : Store) (source : Source) (clocks : Clocks)
    (before state : Store) : Prop :=
  clocks.now.HasFourDigitYear ∧ state.IsKept ∧
    (∀ url, url ≠ job.feed.url → state.feedRow? url = before.feedRow? url) ∧
    ∃ row, state.feedRow? job.feed.url = some row ∧ row.id = source.id ∧ row.IsDated ∧
      ∀ book, start.KeepsAt job.feed.url book → row.Keeps book ∧ source.watermark = book.watermark

section Run

variable {job : Job} {start : Store} {begun : Clocks}

end Run

/-! ### One batch -/

section Batch

variable {course : Course} {store : Store}

theorem Course.IsValid.feeds (valid : course.IsValid) : (course.jobs.map (·.feed.url)).Nodup ∧
    ∀ job ∈ course.jobs, job.feed.credibility.isNaN = false := by
  obtain ⟨config, maxRetries, ok, sublist⟩ := valid.jobs
  obtain ⟨distinct, numbers⟩ := Config.validate_feeds ok
  refine ⟨?_, fun job member => ?_⟩
  · have urls := sublist.map (·.feed.url)
    rw [List.map_map] at urls
    exact distinct.sublist urls
  · obtain ⟨feed, present, rfl⟩ := List.mem_map.mp (sublist.subset member)
    exact numbers feed present

end Batch

/-! ### Batches one after the other -/

end Collect

namespace Collect

end Collect

end Harvest
