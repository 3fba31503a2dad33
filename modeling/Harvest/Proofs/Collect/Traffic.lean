import Harvest.Proofs.Collect.Run
import Harvest.Proofs.Collect.Separation
import Harvest.Proofs.Web.Traffic

/-!
The traffic of feeds. A run asks the web only by fetching, so that requests of any runs to one domain are an
interval apart. Redirects are followed without another turn: what they lead to is asked at once, also at the
same domain.
-/

namespace Harvest.Collect

open Web (Activity Fetching Pacer Script Session Traffic)

namespace Work

variable {α β : Type}

/-- From whatever progress a part of a run starts, it asks the web only by fetching. -/
def FetchesOnly (work : Work α) : Prop := ∀ progress, (work.activity progress).FetchesOnly

theorem FetchesOnly.bind {work : Work α} {next : α → Work β} (only : work.FetchesOnly)
    (onward : ∀ a, (next a).FetchesOnly) : (work >>= next).FetchesOnly := by
  intro progress
  rw [activity_bind]
  refine (only progress).bind fun ended => ?_
  obtain ⟨outcome, progress⟩ := ended
  cases outcome with
  | ok a => exact onward a progress
  | error fault => exact .done _

theorem fetchesOnly_pure {a : α} : (pure a : Work α).FetchesOnly := fun _ => .done _

/-- Nothing is asked after a fault. -/
theorem fetchesOnly_throw {fault : Fault} {next : α → Work β} :
    ((throw fault : Work α) >>= next).FetchesOnly := by
  intro progress
  rw [activity_bind]
  exact .done _

theorem fetchesOnly_enter {target : Stage} : (enter target).FetchesOnly := by
  intro progress
  rw [activity_enter]
  exact .done _

theorem fetchesOnly_tally {change : RunResult → RunResult} : (tally change).FetchesOnly := fun _ => .done _

theorem fetchesOnly_clocks : Work.clocks.FetchesOnly := fun _ => .step fun _ _ => .done _

theorem fetchesOnly_transact {change : Clocks → Store → Store × Except Store.Error α} :
    (transact change).FetchesOnly := by
  intro progress
  rw [activity_transact]
  exact .step fun _ _ => .done _

theorem fetchesOnly_inTime {job : Job} {activity : Activity Store (Option α)} (only : activity.FetchesOnly) :
    (job.inTime activity).FetchesOnly := by
  intro progress
  rw [activity_inTime]
  refine only.bind fun outcome => ?_
  cases outcome with
  | none => exact .done _
  | some _ => exact .done _

end Work

namespace Job

open Work

private theorem submit_fetchesOnly (job : Job) (sourceId : Int) (entry : Feed.Entry) (address content : String) :
    (job.submit sourceId entry address content).FetchesOnly := by
  have looks (identity : Store.Identity) : (job.look identity).FetchesOnly := by
    refine .step fun clocks store => ?_
    split
    · exact .done _
    · exact .crash
  refine (looks _).bind fun found => ?_
  cases found with
  | some duplicate => exact .done _
  | none => exact .step fun _ _ => .done _

private theorem processEntry_fetchesOnly (job : Job) (deadline : Option Nat) (sourceId : Int)
    (entry : Feed.Entry) : (job.processEntry deadline sourceId entry).FetchesOnly := by
  unfold processEntry
  split
  · exact .done _
  refine .fetch (job.fetching deadline) _ fun fetched => ?_
  split
  · exact .done _
  split
  · exact .done _
  exact (job.submit_fetchesOnly sourceId entry _ _).bind fun _ => .done _

private theorem processEntries_fetchesOnly (job : Job) (deadline : Option Nat) (sourceId : Int)
    (entries : List Feed.Entry) (range : ObservedRange) :
    (job.processEntries deadline sourceId range entries).FetchesOnly := by
  induction entries generalizing range with
  | nil => exact fetchesOnly_pure
  | cons entry rest ih =>
    rw [processEntries]
    refine fetchesOnly_tally.bind fun _ => ?_
    refine (fetchesOnly_inTime (job.processEntry_fetchesOnly deadline sourceId entry)).bind fun outcome => ?_
    exact fetchesOnly_tally.bind fun _ => ih _

private theorem collectEntries_fetchesOnly (job : Job) (deadline : Option Nat) (sourceId : Int) :
    (job.collectEntries deadline sourceId).FetchesOnly := by
  unfold collectEntries
  refine (fetchesOnly_inTime (.of_fetch (job.fetching deadline) job.feed.url)).bind fun fetched => ?_
  cases fetched with
  | error e => exact fetchesOnly_throw
  | ok document =>
    refine fetchesOnly_pure.bind fun document => ?_
    dsimp only
    cases Feed.read document.body with
    | error e => exact fetchesOnly_throw
    | ok feed =>
      refine fetchesOnly_pure.bind fun feed => fetchesOnly_enter.bind fun _ => ?_
      exact job.processEntries_fetchesOnly deadline sourceId _ _

private theorem stages_fetchesOnly (job : Job) : job.stages.FetchesOnly := by
  unfold stages
  refine fetchesOnly_enter.bind fun _ => fetchesOnly_transact.bind fun source => ?_
  refine fetchesOnly_tally.bind fun _ => fetchesOnly_enter.bind fun _ => fetchesOnly_clocks.bind fun start => ?_
  refine fetchesOnly_tally.bind fun _ => fetchesOnly_enter.bind fun _ => ?_
  refine (job.collectEntries_fetchesOnly _ _).bind fun range => fetchesOnly_transact.bind fun _ => ?_
  exact fetchesOnly_enter.bind fun _ => fetchesOnly_tally.bind fun _ => fetchesOnly_enter

private theorem conclude_fetchesOnly (fault : Fault) (progress : Progress) :
    (conclude fault progress).FetchesOnly := by
  unfold conclude
  dsimp only
  split
  · exact .step fun _ _ => .done _
  · exact .done _

/-- A run asks the web only by fetching. -/
theorem run_fetchesOnly (job : Job) : job.run.FetchesOnly := by
  rw [run_eq]
  refine .step fun start store => (job.stages_fetchesOnly _).bind fun ended => ?_
  obtain ⟨outcome, progress⟩ := ended
  cases outcome with
  | ok _ => exact .step fun _ _ => .done _
  | error fault => exact (conclude_fetchesOnly fault progress).bind fun _ => .step fun _ _ => .done _

end Job

/-- Whatever happens to activities that ask the web only by fetching, two requests that they make to one domain
are an interval apart. All that is sent belongs to such a request, and goes out when it is made. -/
theorem requests_apart {σ α : Type} (state : σ) (runs : List (Activity σ α))
    (only : ∀ run ∈ runs, run.FetchesOnly) (pacer : Pacer) (web : Script) (events : List Traffic.Event) :
    let t := (Traffic.new state runs pacer web).afterAll events
    (t.attempts.Pairwise fun earlier later => earlier.request.url.domain? = later.request.url.domain? →
      earlier.uptime + pacer.interval ≤ later.uptime) ∧
    t.web.arrivals = web.arrivals ++ t.attempts.flatMap (·.sent) ∧ ∀ attempt ∈ t.attempts, attempt.IsProper := by
  intro t
  have orderly := (Traffic.Orderly.new state only pacer web).afterAll events
  refine ⟨orderly.spaced.imp fun apart same => apart ?_, orderly.arrivals, orderly.proper⟩
  unfold Web.Request.key
  rw [same]

/-- A feed that has moved within its domain, and a pace of one request in a thousand seconds. -/
def movedSite : Site :=
  let document := "\x7b\"version\":\"https://jsonfeed.org/version/1\",\"title\":\"W\",\"items\":[]\x7d"
  let web := Script.new true
    [("http://f.example/rss", [⟨302, [("location", Text.Utf8.encodeText "/feed")], [], none⟩]),
      ("http://f.example/feed", [⟨200, [], Text.Utf8.encodeText document, none⟩])]
  ⟨⟨⟨.epoch, 0⟩, .new (1000 * Web.nanosPerSecond), 1, web, true, []⟩, .empty⟩

/-- Two runs begin, and the second asks for its turn before the interval is over, and once more then. -/
def hastyEvents : List Traffic.Event :=
  let turn : (wait : Web.Wait) → Option wait.Answer
    | .turn _ | .pause _ => some ()
    | .reply _ => none
  [⟨⟨.epoch, 0⟩, 0, turn⟩, ⟨⟨.epoch, 0⟩, 1, turn⟩, ⟨⟨.epoch, 0⟩, 0, turn⟩, ⟨⟨.epoch, 5⟩, 1, turn⟩,
    ⟨⟨.epoch, 1000 * Web.nanosPerSecond⟩, 1, turn⟩]

set_option maxRecDepth 10000 in
theorem requests_apart_hasty :
    let job := plainJob "http://f.example/rss" []
    let t := (Traffic.new movedSite.store [job.run, job.run] movedSite.session.pacer movedSite.session.web).afterAll
      hastyEvents
    (∀ run ∈ [job.run, job.run], run.FetchesOnly) ∧
    t.attempts.map (fun attempt => (attempt.uptime, attempt.sent.length)) = [(0, 2), (1000000000000, 2)] ∧
    t.attempts.Pairwise fun earlier later => earlier.request.url.domain? = later.request.url.domain? →
      earlier.uptime + movedSite.session.pacer.interval ≤ later.uptime := by
  intro job t
  have only : ∀ run ∈ [job.run, job.run], run.FetchesOnly := by
    simp [job.run_fetchesOnly]
  obtain ⟨apart, -⟩ := requests_apart movedSite.store [job.run, job.run] only movedSite.session.pacer
    movedSite.session.web hastyEvents
  exact ⟨only, by decide +kernel, apart⟩

set_option maxRecDepth 10000 in
/-- Two requests reach one domain at the same time, the second by the redirect that answers the first. -/
theorem redirect_unpaced :
    let session := (movedSite.perform (plainJob "http://f.example/rss" []).run).1.session
    session.pacer.interval = 1000000000000 ∧
    session.web.arrivals.map (fun arrival => (arrival.uptime, Web.Request.address arrival.url)) =
      [(0, "http://f.example/rss"), (0, "http://f.example/feed")] ∧
    ¬ session.web.arrivals.Pairwise fun earlier later => earlier.url.domain? = later.url.domain? →
      earlier.uptime + session.pacer.interval ≤ later.uptime := by
  decide +kernel

end Harvest.Collect
