import Harvest.Proofs.Collect.Site

/-!
What a run hears. A session tells of a feed and of its entries, one after the other, until all is told or
the time runs out. What it tells depends on the session alone.
-/

namespace Harvest.Collect

open Web (Session)

/-- What the web tells of an entry: its address and its content, or else why it is passed over. -/
abbrev Reading := Except SkipReason (String × String)

/-- How the telling of a feed ended. -/
inductive Ending where
  | whole
  /-- The feed could not be had. -/
  | unread (fault : Fault)
  /-- The time ran out, before the first entry or during one. -/
  | late (during : Option Feed.Entry)

/-- What a session tells of a feed: readings of its entries up to the end. -/
structure Told where
  readings : List (Feed.Entry × Reading)
  ending : Ending

namespace Told

def isLate (told : Told) : Bool :=
  match told.ending with
  | .late _ => true
  | _ => false

/-- How many entries were begun when the time ran out. -/
def begun (told : Told) : Nat :=
  match told.ending with
  | .late (some _) => 1
  | _ => 0

/-- The fault that ended a run of the job. -/
def fault? (job : Job) (told : Told) : Option Fault :=
  match told.ending with
  | .whole => none
  | .unread fault => some fault
  | .late _ => some job.timeoutFault

/-- The range of the timestamps told of, together with those of an earlier range. -/
def range (told : Told) (earlier : ObservedRange) : ObservedRange :=
  told.readings.foldl (fun range reading => match reading.1.timestamp with
    | some t => range.record t
    | none => range) earlier

end Told

namespace Job

variable {job : Job} {site : Site}

/-- What the web answers to the fetch of the feed, after all tries; nothing if the time runs out. -/
def answer? (job : Job) (site : Site) : Option (Except Web.FetchError Web.Fetched) :=
  (site.perform ((job.fetching (some (job.deadline site.session.clocks.uptime))).fetch
    job.feed.url)).2.join

/-- The feed that the job gets to read: what the web answers when the run begins. -/
def Finds (job : Job) (site : Site) (feed : Feed) : Prop :=
  ∃ document, (site.perform ((job.fetching (some (job.deadline site.session.clocks.uptime))).fetch
      job.feed.url)).2 = some (some (.ok document)) ∧ Feed.read document.body = .ok feed

def taken (job : Job) (feed : Feed) : List Feed.Entry :=
  feed.entries.take (job.feed.itemLimit job.config.settings)

theorem finds_iff {feed : Feed} : job.Finds site feed ↔
    ∃ document, job.answer? site = some (.ok document) ∧ Feed.read document.body = .ok feed := by
  unfold Finds answer?
  simp only [Option.join_eq_some_iff]

theorem Finds.unique {feed other : Feed} (finds : job.Finds site feed) (others : job.Finds site other) :
    other = feed := by
  obtain ⟨document, answer, read⟩ := finds_iff.mp finds
  obtain ⟨again, answer', read'⟩ := finds_iff.mp others
  cases answer.symm.trans answer'
  exact Except.ok.inj (read'.symm.trans read)

/-- What a fetch gets from a session. -/
def hears (job : Job) (deadline : Option Nat) (session : Session) (url : String) :
    Session × Option (Except Web.FetchError Web.Fetched) :=
  let (later, _, answer) := session.perform () ((job.fetching deadline).fetch url)
  (later, answer.join)

/-- What an entry turns out to be, if its page is fetched in time. -/
def hearsEntry (job : Job) (deadline : Option Nat) (session : Session) (entry : Feed.Entry) :
    Session × Option Reading :=
  match entry.address? with
  | none => (session, some (.error .noLink))
  | some address =>
    let (later, answer) := job.hears deadline session address
    (later, answer.map fun fetched => match (articleText? fetched).or entry.ownText? with
      | none => .error .noContent
      | some content => .ok (address, content))

def hearsAll (job : Job) (deadline : Option Nat) (session : Session) : List Feed.Entry → Session × Told
  | [] => (session, ⟨[], .whole⟩)
  | entry :: rest =>
    match job.hearsEntry deadline session entry with
    | (later, none) => (later, ⟨[], .late (some entry)⟩)
    | (later, some reading) =>
      let (last, told) := job.hearsAll deadline later rest
      (last, { told with readings := (entry, reading) :: told.readings })

/-- What a session tells to a run that begins. -/
def told (job : Job) (session : Session) : Session × Told :=
  let deadline := some (job.deadline session.clocks.uptime)
  match job.hears deadline session job.feed.url with
  | (later, none) => (later, ⟨[], .late none⟩)
  | (later, some (.error e)) => (later, ⟨[], .unread (.fetch e)⟩)
  | (later, some (.ok document)) =>
    match Feed.read document.body with
    | .error e => (later, ⟨[], .unread (.malformedFeed job.feed.url e.message)⟩)
    | .ok feed => job.hearsAll deadline later (job.taken feed)

/-! ### How it ends -/

end Job

end Harvest.Collect
