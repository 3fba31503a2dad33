import Harvest.Collect.Admission
import Harvest.Collect.Entry
import Harvest.Collect.RunResult
import Harvest.Collect.Tracker
import Harvest.Config.Basic
import Harvest.Feed.Reader
import Harvest.Web.Fetch

/-!
The run of one feed: its source is refreshed, a window is planned, the feed is fetched, and each of
its entries is stored or skipped. The first fault ends the run and is noted with the source; faults
of single entries do not. All fetching shares one budget of time.
-/

namespace Harvest.Collect

open Web (Activity Fetching)

/-- A feed to be collected under a configuration. -/
structure Job where
  config : Config
  feed : Config.FeedConfig
  maxRetries : Nat

/-- How far a run is. -/
structure Progress where
  tracker : Tracker
  result : RunResult

/-- The outcome of a run and its way there. -/
abbrev Report := Progress

/-- Part of a run: it makes progress, and may end in a fault. -/
abbrev Work := ExceptT Fault (StateT Progress (Activity Store))

namespace Work

/-- Goes on to a stage. -/
def enter (target : Stage) : Work Unit := do
  let progress ← get
  let (tracker, outcome) := progress.tracker.advance target
  set { progress with tracker }
  match outcome with
  | .ok () => pure ()
  | .error fault => throw fault

/-- Changes the result. -/
def tally (change : RunResult → RunResult) : Work Unit :=
  modify fun progress => { progress with result := change progress.result }

/-- Changes the store. -/
def transact {α : Type} (change : Clocks → Store → Store × Except Store.Error α) : Work α := do
  match ← (Activity.transact change : Activity Store (Except Store.Error α)) with
  | .ok a => pure a
  | .error e => throw (.store e)

def clocks : Work Clocks := (Activity.clocks : Activity Store Clocks)

end Work

namespace Job

def name (job : Job) : String := job.feed.name

/-- The source as the feed describes it. -/
def sourceDraft (job : Job) : Source.Draft :=
  { sourceType := "rss", name := job.feed.name, url := job.feed.url
    credibility := job.feed.credibility, tier := job.feed.tier
    reportingType := job.feed.reportingType, config := job.feed.sourceConfig job.config.settings
    active := job.feed.enabled }

/-- How documents are fetched. -/
def fetching (job : Job) (deadline : Option Nat) : Fetching :=
  { userAgent := job.config.settings.userAgent
    timeout := job.config.settings.requestTimeoutSeconds * Web.nanosPerSecond
    maxRetries := job.maxRetries, deadline }

/-- The uptime at which the budget of a run that fetches from `uptime` on is used up. -/
def deadline (job : Job) (uptime : Nat) : Nat :=
  uptime + job.config.collection.feedTimeoutSeconds * Web.nanosPerSecond

/-- The fault of a run that took too long. -/
def timeoutFault (job : Job) : Fault :=
  .feedTimeout job.feed.url job.config.collection.feedTimeoutSeconds

/-- Ends the run if the deadline passed. -/
def inTime {α : Type} (job : Job) (activity : Activity Store (Option α)) : Work α := do
  match ← activity with
  | some a => pure a
  | none => throw job.timeoutFault

/-- The item of an entry. The language of the feed's configuration outweighs the entry's own. -/
def itemDraft (job : Job) (sourceId : Int) (now : Instant) (entry : Feed.Entry)
    (address content : String) : Item.Draft :=
  { sourceId, externalId := address, url := address, title := entry.title.bind Html.toText
    author := entry.author, publishedAt := entry.timestamp, fetchedAt := now, content
    hash := contentHash content, language := job.feed.language.or entry.language
    status := .pending }

/-- Looks for a stored item like an entry's. The window of days must not reach back beyond the
calendar. -/
def look (job : Job) (identity : Store.Identity) : Activity Store (Option Store.Duplicate) :=
  .step (fun _ store => store) fun clocks store =>
    match store.findDuplicate? clocks.now job.config.collection.dedupWindowDays identity with
    | some found => .done found
    | none => .crash

/-- Submits an entry's item to the store, which takes it unless it is a duplicate. Looking and storing
are two steps. -/
def submit (job : Job) (sourceId : Int) (entry : Feed.Entry) (address content : String) :
    Activity Store (Except Store.Error EntryOutcome) :=
  (job.look ⟨address, address, contentHash content⟩).bind fun
    | some duplicate => .done (.ok (.skipped (.duplicate duplicate.matchedOn)))
    | none => Activity.transact fun clocks store =>
      storeItem store (job.itemDraft sourceId clocks.now entry address content)

/-- The text of a fetched article page. A page that could not be fetched has none. -/
def articleText? (fetched : Except Web.FetchError Web.Fetched) : Option String :=
  fetched.toOption.bind fun page => Html.extract page.text

/-- Stores or skips an entry. The content is the article's text, or else what the entry says itself.
The result is `none` if the deadline passed. -/
def processEntry (job : Job) (deadline : Option Nat) (sourceId : Int) (entry : Feed.Entry) :
    Activity Store (Option (Except Store.Error EntryOutcome)) :=
  match entry.address? with
  | none => .done (some (.ok (.skipped .noLink)))
  | some address =>
    ((job.fetching deadline).fetch address).bind fun
      | none => .done none
      | some fetched =>
        match (articleText? fetched).or entry.ownText? with
        | none => .done (some (.ok (.skipped .noContent)))
        | some content => (job.submit sourceId entry address content).bind fun r => .done (some r)

/-- Counts what became of an entry. -/
def count (entry : Feed.Entry) (outcome : Except Store.Error EntryOutcome) (r : RunResult) :
    RunResult :=
  match outcome with
  | .ok (.stored _) => { r with stored := r.stored + 1 }
  | .ok (.skipped _) => { r with skipped := r.skipped + 1 }
  | .error e => r.recordEntryError entry.label (.store e)

/-- Processes entries one after the other, and gives the range of their timestamps. -/
def processEntries (job : Job) (deadline : Option Nat) (sourceId : Int) (range : ObservedRange) :
    List Feed.Entry → Work ObservedRange
  | [] => pure range
  | entry :: rest => do
    Work.tally fun r => { r with fetched := r.fetched + 1 }
    let outcome ← job.inTime (job.processEntry deadline sourceId entry)
    Work.tally (count entry outcome)
    job.processEntries deadline sourceId
      (match entry.timestamp with
        | some t => range.record t
        | none => range) rest

/-- Fetches the feed and processes its entries. -/
def collectEntries (job : Job) (deadline : Option Nat) (sourceId : Int) : Work ObservedRange := do
  let fetched ← match ← job.inTime ((job.fetching deadline).fetch job.feed.url) with
    | .ok fetched => pure fetched
    | .error e => throw (.fetch e)
  let feed ← match Feed.read fetched.body with
    | .ok feed => pure feed
    | .error e => throw (.malformedFeed job.feed.url e.message)
  Work.enter .processingEntries
  job.processEntries deadline sourceId .empty (feed.entries.take (job.feed.itemLimit job.config.settings))

/-- All stages of a run that goes well. -/
def stages (job : Job) : Work Unit := do
  Work.enter .resolvingSource
  let source ← Work.transact fun clocks store => store.upsertSource clocks.now job.sourceDraft
  Work.tally fun r => { r with sourceId := some source.id }
  Work.enter .windowing
  let start ← Work.clocks
  let plan := WindowPlan.compute source.watermark start.now job.config.settings.lookbackHours
    job.config.collection.overlapSeconds
  Work.tally fun r =>
    { r with expectedStart := some plan.expectedStart, actualStart := some plan.actualStart }
  Work.enter .fetchingFeed
  let range ← job.collectEntries (some (job.deadline start.uptime)) source.id
  let coverage := plan.observe range start.now
  let watermark := advanceWatermark source.watermark coverage.windowEnd
  Work.transact fun clocks store =>
    match store.recordSuccess source.id watermark clocks.now with
    | .ok store => (store, .ok ())
    | .error e => (store, .error e)
  Work.enter .success
  Work.tally (·.withCoverage coverage)
  Work.enter .done

/-- Notes a fault with the source, as far as that is possible. -/
def noteFailure (sourceId : Int) (fault : Fault) : Activity Store Unit :=
  Activity.transact fun clocks store =>
    match store.recordFailure sourceId (Store.clipError fault.message) clocks.now with
    | .ok store => (store, ())
    | .error _ => (store, ())

/-- Ends a run with a fault. -/
def conclude (fault : Fault) (progress : Progress) : Activity Store Report := do
  let result := progress.result.recordFailure fault
  let tracker := (progress.tracker.advance .recordingFailure).1
  match result.sourceId with
  | some id => noteFailure id fault
  | none => pure ()
  return ⟨(tracker.advance .done).1, result⟩

/-- The run of a feed. -/
def run (job : Job) : Activity Store Report := do
  let start ← Activity.clocks
  let (outcome, progress) ← StateT.run (ExceptT.run job.stages) ⟨.start, .new job.feed.name⟩
  let report ← match outcome with
    | .ok () => pure progress
    | .error fault => conclude fault progress
  let stop ← Activity.clocks
  return { report with result := { report.result with duration := stop.uptime - start.uptime } }

end Job

end Harvest.Collect
