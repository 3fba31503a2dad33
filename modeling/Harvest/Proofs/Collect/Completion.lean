import Harvest.Proofs.Collect.Run
import Harvest.Proofs.Store.Duplicate
import Mathlib.Data.List.Infix

/-!
Runs come to a report. As long as the window of duplicates lies within the calendar no part of a run
crashes, whatever the store holds and whatever the web answers. The report goes by the name of the feed,
and the run came to its outcome on one of the ways through the stages, every one of them granted.
-/

namespace Harvest.Collect

open Web (Activity)

/-- The window in which duplicates are looked for lies within the calendar. -/
def Job.ReachesAt (job : Job) (clocks : Clocks) : Prop :=
  (Store.daysBefore? clocks.now job.config.collection.dedupWindowDays).isSome = true

/-! ### Ways through the stages -/

namespace Stage

/-- The stages of a run up to its outcome, in order. -/
def working : List Stage := [resolvingSource, windowing, fetchingFeed, processingEntries]

end Stage

namespace Tracker

/-- A tracker that was asked for these stages, and granted them, one after the other. -/
def along (way : List Stage) : Tracker :=
  ⟨way.getLast?.getD .loadingConfig, way.map fun stage => ⟨stage, true⟩⟩

theorem advance_along {way : List Stage} {target : Stage}
    (moves : (along way).stage.canMove target = true) :
    (along way).advance target = (along (way ++ [target]), .ok ()) := by
  rw [advance_ok moves]
  simp [along]

end Tracker

/-- The result of a run under a name whose outcome is still open. -/
structure RunResult.IsOpen (name : String) (r : RunResult) : Prop where
  feed : r.feed = name
  failure : r.failure = none

/-- The run came to its outcome on one of the ways there: through all stages to success, or from one of
them to the recording of its failure. -/
inductive Progress.Concluded (progress : Progress) : Prop where
  | success (failure : progress.result.failure = none)
      (way : progress.tracker = .along (Stage.working ++ [.success, .done]))
  | failure (failure : progress.result.failure ≠ none) (front : List Stage) (begun : front ≠ [])
      (reached : front <+: Stage.working)
      (way : progress.tracker = .along (front ++ [.recordingFailure, .done]))

/-- How far the stages of a run got. -/
def Progress.Reached (outcome : Except Fault Unit) (progress : Progress) : Prop :=
  match outcome with
  | .ok _ => progress.tracker = .along (Stage.working ++ [.success, .done])
  | .error _ => ∃ front, front ≠ [] ∧ front <+: Stage.working ∧ progress.tracker = .along front

namespace Job

open Work

private theorem submit_yields (job : Job) (sourceId : Int) (entry : Feed.Entry) (address content : String) :
    (job.submit sourceId entry address content).Yields job.ReachesAt fun _ => True := by
  unfold submit look
  rw [Activity.yields_bind]
  intro clocks store reach
  obtain ⟨found, looked⟩ := Option.isSome_iff_exists.mp
    (store.findDuplicate?_isSome ⟨address, address, contentHash content⟩ reach)
  dsimp only
  rw [looked]
  cases found with
  | some duplicate => trivial
  | none => exact fun _ _ _ => trivial

theorem processEntry_yields (job : Job) (deadline : Option Nat) (sourceId : Int)
    (entry : Feed.Entry) :
    (job.processEntry deadline sourceId entry).Yields job.ReachesAt fun _ => True := by
  unfold processEntry
  split
  · trivial
  rw [Activity.yields_bind]
  refine ((job.fetching deadline).fetch_yields _).mono fun fetched _ => ?_
  split
  · trivial
  split
  · trivial
  rw [Activity.yields_bind]
  exact (job.submit_yields sourceId entry _ _).mono fun _ _ => trivial

private theorem count_open {name : String} {r : RunResult} (isOpen : r.IsOpen name) (entry : Feed.Entry)
    (outcome : Except Store.Error EntryOutcome) : (count entry outcome r).IsOpen name := by
  match outcome with
  | .ok (.stored _) => exact ⟨isOpen.feed, isOpen.failure⟩
  | .ok (.skipped _) => exact ⟨isOpen.feed, isOpen.failure⟩
  | .error _ => exact ⟨isOpen.feed, isOpen.failure⟩

private theorem processEntries_yields (job : Job) (deadline : Option Nat) (sourceId : Int)
    (entries : List Feed.Entry) (range : ObservedRange) {name : String} {tracker : Tracker} {r : RunResult}
    (isOpen : r.IsOpen name) :
    (job.processEntries deadline sourceId range entries).Yields job.ReachesAt
      (fun _ later => later.result.IsOpen name ∧ later.tracker = tracker) ⟨tracker, r⟩ := by
  induction entries generalizing range r with
  | nil => exact ⟨isOpen, rfl⟩
  | cons entry rest ih =>
    rw [processEntries, yields_bind, yields_tally]
    dsimp only
    rw [yields_bind, yields_inTime]
    refine (job.processEntry_yields deadline sourceId entry).mono fun outcome _ => ?_
    cases outcome with
    | none => exact ⟨⟨isOpen.feed, isOpen.failure⟩, rfl⟩
    | some outcome =>
      dsimp only
      rw [yields_bind, yields_tally]
      have taken : RunResult.IsOpen name { r with fetched := r.fetched + 1 } := ⟨isOpen.feed, isOpen.failure⟩
      exact ih _ (count_open taken entry outcome)

private theorem collectEntries_yields (job : Job) (deadline : Option Nat) (sourceId : Int) {r : RunResult}
    (isOpen : r.IsOpen job.feed.name) :
    (job.collectEntries deadline sourceId).Yields job.ReachesAt (fun outcome later =>
      later.result.IsOpen job.feed.name ∧ match outcome with
        | .ok _ => later.tracker = .along Stage.working
        | .error _ => ∃ front, front ≠ [] ∧ front <+: Stage.working ∧ later.tracker = .along front)
      ⟨.along [.resolvingSource, .windowing, .fetchingFeed], r⟩ := by
  unfold collectEntries
  rw [yields_bind, yields_inTime]
  refine ((job.fetching deadline).fetch_yields _).mono fun fetched _ => ?_
  rcases fetched with _ | e | document
  · exact ⟨isOpen, _, by decide, by decide, rfl⟩
  · exact ⟨isOpen, _, by decide, by decide, rfl⟩
  · dsimp only
    rw [yields_bind, yields_pure]
    dsimp only
    cases Feed.read document.body with
    | error e => exact ⟨isOpen, _, by decide, by decide, rfl⟩
    | ok feed =>
      dsimp only
      rw [yields_bind, yields_pure]
      dsimp only
      rw [yields_bind, yields_enter, Tracker.advance_along rfl]
      dsimp only
      refine (job.processEntries_yields deadline sourceId _ _ isOpen).mono fun outcome later done => ?_
      refine ⟨done.1, ?_⟩
      cases outcome with
      | ok range => exact done.2
      | error fault => exact ⟨_, by decide, List.prefix_rfl, done.2⟩

private theorem stages_yields (job : Job) : job.stages.Yields job.ReachesAt
    (fun outcome later => later.result.IsOpen job.feed.name ∧ later.Reached outcome)
    ⟨.along [], .new job.feed.name⟩ := by
  have isOpen : (RunResult.new job.feed.name).IsOpen job.feed.name := ⟨rfl, rfl⟩
  unfold stages
  rw [yields_bind, yields_enter, Tracker.advance_along rfl]
  dsimp only
  rw [yields_bind, yields_transact]
  intro clocks store _
  cases (store.upsertSource clocks.now job.sourceDraft).2 with
  | error e => exact ⟨isOpen, _, by decide, by decide, rfl⟩
  | ok source =>
    dsimp only [Except.mapError]
    rw [yields_bind, yields_tally]
    dsimp only
    rw [yields_bind, yields_enter, Tracker.advance_along rfl]
    dsimp only
    rw [yields_bind, yields_clocks]
    intro start _ _
    dsimp only
    rw [yields_bind, yields_tally]
    dsimp only
    rw [yields_bind, yields_enter, Tracker.advance_along rfl]
    dsimp only
    rw [yields_bind]
    refine (job.collectEntries_yields _ _ ⟨?_, ?_⟩).mono fun outcome later done => ?_
    · exact isOpen.feed
    · exact isOpen.failure
    obtain ⟨isOpen, reached⟩ := done
    obtain ⟨tracker, r⟩ := later
    cases outcome with
    | error fault => exact ⟨isOpen, reached⟩
    | ok range =>
      have way : tracker = .along Stage.working := reached
      subst way
      dsimp only
      rw [yields_bind, yields_transact]
      intro stop store _
      dsimp only [WindowPlan.observe]
      cases store.recordSuccess source.id (advanceWatermark source.watermark start.now) stop.now with
      | error e => exact ⟨isOpen, _, by decide, List.prefix_rfl, rfl⟩
      | ok _ =>
        dsimp only [Except.mapError]
        rw [yields_bind, yields_enter, Tracker.advance_along rfl]
        dsimp only
        rw [yields_bind, yields_tally]
        dsimp only
        rw [yields_enter, Tracker.advance_along rfl]
        exact ⟨⟨isOpen.feed, isOpen.failure⟩, rfl⟩

private theorem conclude_yields (fault : Fault) {name : String} {progress : Progress} {shown : Clocks → Prop}
    (isOpen : progress.result.IsOpen name) (reached : progress.Reached (.error fault)) :
    (conclude fault progress).Yields shown fun report => report.result.feed = name ∧ report.Concluded := by
  obtain ⟨front, begun, reached, way⟩ := reached
  have moves : (Tracker.along front).stage.canMove .recordingFailure = true := by
    have fronts : ∀ front ∈ Stage.working.inits,
        (Tracker.along front).stage.canMove .recordingFailure = true := by decide
    exact fronts front ((List.mem_inits _ _).mpr reached)
  have ends : (Tracker.along (front ++ [.recordingFailure])).stage.canMove .done = true := by
    simp [Tracker.along, Stage.canMove, Stage.next?]
  have concluded : Progress.Concluded
      ⟨((progress.tracker.advance .recordingFailure).1.advance .done).1, progress.result.recordFailure fault⟩ := by
    refine .failure (Option.some_ne_none _) front begun reached ?_
    rw [way, Tracker.advance_along moves, Tracker.advance_along ends, List.append_assoc]
    rfl
  unfold conclude
  dsimp only
  split
  · exact fun _ _ _ => ⟨isOpen.feed, concluded⟩
  · exact ⟨isOpen.feed, concluded⟩

/-- A run comes to a report under the name of its feed, on one of the ways to an outcome. -/
theorem run_concludes (job : Job) :
    job.run.Yields job.ReachesAt fun report => report.result.feed = job.feed.name ∧ report.Concluded := by
  rw [run_eq, Activity.yields_bind]
  intro start store _
  rw [Activity.Yields, Activity.yields_bind]
  refine Activity.Yields.mono job.stages_yields fun ended done => ?_
  rw [Activity.yields_bind]
  obtain ⟨outcome, progress⟩ := ended
  obtain ⟨isOpen, reached⟩ := done
  -- The time that the run took is put into the report last, and touches nothing else.
  have timed (report : Report) (duration : Nat) (concluded : report.Concluded) :
      Progress.Concluded { report with result := { report.result with duration } } := by
    cases concluded with
    | success failure way => exact .success failure way
    | failure failure front begun reached way => exact .failure failure front begun reached way
  cases outcome with
  | ok _ => exact fun _ _ _ => ⟨isOpen.feed, timed _ _ (.success isOpen.failure reached)⟩
  | error fault =>
    exact (conclude_yields fault isOpen reached).mono fun report done =>
      fun _ _ _ => ⟨done.1, timed _ _ done.2⟩

theorem run_yields (job : Job) :
    job.run.Yields job.ReachesAt fun report => report.result.feed = job.feed.name :=
  job.run_concludes.mono fun _ => And.left

end Job

end Harvest.Collect
