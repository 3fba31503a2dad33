import Harvest.Proofs.Collect.Hearing
import Harvest.Proofs.Collect.Journal

/-!
A run as a function: what it comes to, its result and its writes, is settled by the store, the calendar
and what it hears.
-/

namespace Harvest.Collect

/-! ### Asking the store -/

/-- Nothing but items is written: the sources and what is refused stay as they were. -/
def SameSources (earlier later : Store) : Prop :=
  later.sources = earlier.sources ∧ later.lastSourceId = earlier.lastSourceId ∧
    later.refused = earlier.refused

theorem SameSources.sourceRowAt?_eq {earlier later : Store} (same : SameSources earlier later)
    (sourceType url : String) : later.sourceRowAt? sourceType url = earlier.sourceRowAt? sourceType url := by
  unfold Store.sourceRowAt?
  rw [same.1]

private theorem storeItem_sources (store : Store) (draft : Item.Draft) :
    SameSources store (storeItem store draft).1 := by
  unfold storeItem
  cases done : store.insertItem draft with
  | error e => exact ⟨rfl, rfl, rfl⟩
  | ok answer =>
    obtain ⟨id, later⟩ := answer
    obtain ⟨-, rfl⟩ := Store.insertItem_ok done
    exact ⟨rfl, rfl, rfl⟩

namespace Job

def handle (job : Job) (now : Instant) (sourceId : Int) (store : Store) (entry : Feed.Entry) :
    Reading → Store × Except Store.Error EntryOutcome
  | .error reason => (store, .ok (.skipped reason))
  | .ok (address, content) =>
    match store.findDuplicate? now job.config.collection.dedupWindowDays
      ⟨address, address, contentHash content⟩ with
    | some (some duplicate) => (store, .ok (.skipped (.duplicate duplicate.matchedOn)))
    | _ => storeItem store (job.itemDraft sourceId now entry address content)

theorem handle_sources (job : Job) (now : Instant) (sourceId : Int) (store : Store) (entry : Feed.Entry)
    (reading : Reading) : SameSources store (job.handle now sourceId store entry reading).1 := by
  unfold handle
  split
  · exact ⟨rfl, rfl, rfl⟩
  · split
    · exact ⟨rfl, rfl, rfl⟩
    · exact storeItem_sources _ _

/-- What becomes of several entries, each of which finds the store as the one before left it. -/
def handleAll (job : Job) (now : Instant) (sourceId : Int) (store : Store) :
    List (Feed.Entry × Reading) → Store × Journal
  | [] => (store, [])
  | (entry, reading) :: rest =>
    let (later, outcome) := job.handle now sourceId store entry reading
    let (last, journal) := job.handleAll now sourceId later rest
    (last, (entry, outcome) :: journal)

theorem handleAll_sources (job : Job) (now : Instant) (sourceId : Int) (store : Store)
    (readings : List (Feed.Entry × Reading)) :
    SameSources store (job.handleAll now sourceId store readings).1 := by
  induction readings generalizing store with
  | nil => exact ⟨rfl, rfl, rfl⟩
  | cons first rest ih =>
    obtain ⟨sources, last, refused⟩ := job.handle_sources now sourceId store first.1 first.2
    obtain ⟨sources', last', refused'⟩ := ih (job.handle now sourceId store first.1 first.2).1
    exact ⟨sources'.trans sources, last'.trans last, refused'.trans refused⟩

end Job

/-! ### What comes of it -/

/-- A result after all that was told, of which the store has made a journal. -/
def RunResult.told (r : RunResult) (told : Told) (journal : Journal) : RunResult :=
  match told.ending with
  | .late (some _) => (r.tallied journal).interrupted
  | _ => r.tallied journal

theorem RunResult.told_sourceId (r : RunResult) (told : Told) (journal : Journal) :
    (r.told told journal).sourceId = r.sourceId := by
  unfold RunResult.told
  split
  · rfl
  · rfl

/-- What a result tells of a run: its fault, the entries of a journal, and how many more were begun. -/
structure RunResult.Tells (fault : Option Fault) (journal : Journal) (begun : Nat) (r : RunResult) : Prop where
  failure : r.failure = fault.map (·.kind)
  errors : r.errors = journal.errors ++ (fault.map (·.report)).toList
  fetched : r.fetched = journal.length + begun
  stored : r.stored = journal.stored.length
  skipped : r.skipped = journal.skipped.length
  counted : r.transientErrors + r.terminalErrors = if r.failure.isSome then 1 else 0
  transientErrors : r.transientErrors = if r.failure = some .transient then 1 else 0
  windowEnd : r.windowEnd.isSome = true ↔ r.failure = none

/-- A result before the outcome of its run is told. -/
structure RunResult.Untold (journal : Journal) (begun : Nat) (r : RunResult) : Prop where
  failure : r.failure = none
  errors : r.errors = journal.errors
  fetched : r.fetched = journal.length + begun
  stored : r.stored = journal.stored.length
  skipped : r.skipped = journal.skipped.length
  transientErrors : r.transientErrors = 0
  terminalErrors : r.terminalErrors = 0
  windowEnd : r.windowEnd = none

namespace RunResult.Untold

variable {journal : Journal} {begun : Nat} {r : RunResult}

theorem new (feed : String) : Untold [] 0 (.new feed) := ⟨rfl, rfl, rfl, rfl, rfl, rfl, rfl, rfl⟩

theorem failed (untold : r.Untold journal begun) (fault : Fault) :
    (r.recordFailure fault).Tells (some fault) journal begun := by
  refine ⟨rfl, congrArg (· ++ _) untold.errors, untold.fetched, untold.stored, untold.skipped, ?_, ?_, ?_⟩
  · cases kind : fault.kind with
    | transient => simp [recordFailure, untold.transientErrors, untold.terminalErrors, kind]
    | terminal => simp [recordFailure, untold.transientErrors, untold.terminalErrors, kind]
  · simp [recordFailure, untold.transientErrors]
  · simp [recordFailure, untold.windowEnd]

theorem succeeded (untold : r.Untold journal begun) (coverage : Coverage) :
    (r.withCoverage coverage).Tells none journal begun := by
  refine ⟨untold.failure, untold.errors.trans (List.append_nil _).symm, untold.fetched, untold.stored,
    untold.skipped, ?_, ?_, ?_⟩
  · simp [withCoverage, untold.failure, untold.transientErrors, untold.terminalErrors]
  · simp [withCoverage, untold.failure, untold.transientErrors]
  · simp [withCoverage, untold.failure]

end RunResult.Untold

theorem RunResult.Tells.lasting {fault : Option Fault} {journal : Journal} {begun : Nat} {r : RunResult}
    (tells : r.Tells fault journal begun) (duration : Nat) :
    Tells fault journal begun { r with duration } :=
  ⟨tells.failure, tells.errors, tells.fetched, tells.stored, tells.skipped, tells.counted,
    tells.transientErrors, tells.windowEnd⟩

namespace Job

variable {job : Job}

/-- The window of a run that begins at `now`. -/
def plan (job : Job) (now : Instant) (source : Source) : WindowPlan :=
  .compute source.watermark now job.config.settings.lookbackHours job.config.collection.overlapSeconds

/-- A run's result when it turns to the web. -/
def planned (job : Job) (now : Instant) (source : Source) : RunResult :=
  { RunResult.new job.feed.name with
    sourceId := some source.id
    expectedStart := some (job.plan now source).expectedStart
    actualStart := some (job.plan now source).actualStart }

/-- The store after a failure was noted with a source, as far as that is possible. -/
def noted (store : Store) (now : Instant) (sourceId : Int) (fault : Fault) : Store :=
  (store.recordFailure sourceId (Store.clipError fault.message) now).toOption.getD store

/-- What a run comes to, apart from its duration. -/
def upshot (job : Job) (now : Instant) (store : Store) (told : Told) : Store × RunResult :=
  match store.upsertSource now job.sourceDraft with
  | (resolved, .error e) => (resolved, (RunResult.new job.feed.name).recordFailure (.store e))
  | (resolved, .ok source) =>
    let (taken, journal) := job.handleAll now source.id resolved told.readings
    let r := (job.planned now source).told told journal
    match told.fault? job with
    | some fault => (noted taken now source.id fault, r.recordFailure fault)
    | none =>
      match taken.recordSuccess source.id (advanceWatermark source.watermark now) now with
      | .ok later => (later, r.withCoverage ((job.plan now source).observe (told.range .empty) now))
      | .error e => (noted taken now source.id (.store e), r.recordFailure (.store e))

/-- What a run notes in the row of its source in the end. -/
def closing (job : Job) (now : Instant) (source : Source) (told : Told) (row : Source.Row) : Source.Row :=
  match told.fault? job with
  | some fault => row.fail (Store.clipError fault.message) now
  | none => row.succeed (advanceWatermark source.watermark now) now

/-- The result of a run that has resolved its source. -/
def closed (job : Job) (now : Instant) (source : Source) (told : Told) (journal : Journal) : RunResult :=
  match told.fault? job with
  | some fault => ((job.planned now source).told told journal).recordFailure fault
  | none => ((job.planned now source).told told journal).withCoverage
      ((job.plan now source).observe (told.range .empty) now)

theorem closed_sourceId (job : Job) (now : Instant) (source : Source) (told : Told) (journal : Journal) :
    (job.closed now source told journal).sourceId = some source.id := by
  unfold closed
  split
  · exact RunResult.told_sourceId _ told journal
  · exact RunResult.told_sourceId _ told journal

theorem closing_origin (job : Job) (now : Instant) (source : Source) (told : Told) (row : Source.Row) :
    (job.closing now source told row).origin = row.origin := by
  unfold closing
  split
  · exact Source.Row.fail_origin _ _ row
  · exact Source.Row.succeed_origin _ _ row

/-- A run that has resolved its source can note its outcome in the row of the source, whatever that is. -/
theorem upshot_resolved {now : Instant} {store resolved : Store} {source : Source}
    (done : store.upsertSource now job.sourceDraft = (resolved, .ok source)) (told : Told) : ∃ later,
    (job.handleAll now source.id resolved told.readings).1.updateSource source.id
      (job.closing now source told) = .ok later ∧
    job.upshot now store told =
      (later, job.closed now source told (job.handleAll now source.id resolved told.readings).2) := by
  obtain ⟨put, row, present, read⟩ := Store.upsertSource_ok done
  have member : row ∈ (job.handleAll now source.id resolved told.readings).1.sources := by
    rw [(job.handleAll_sources now source.id resolved told.readings).1]
    exact (Store.sourceRowAt?_key present).1
  obtain ⟨later, ok⟩ := Store.updateSource_isOk member (job.closing now source told)
  rw [← Store.read_id read] at ok
  refine ⟨later, ok, ?_⟩
  unfold upshot closed
  rw [done]
  dsimp only
  unfold closing at ok
  cases fault : told.fault? job with
  | some fault =>
    simp only [fault] at ok
    dsimp only
    unfold noted Store.recordFailure
    rw [ok]
    rfl
  | none =>
    simp only [fault] at ok
    dsimp only
    unfold Store.recordSuccess
    rw [ok]

end Job

end Harvest.Collect
