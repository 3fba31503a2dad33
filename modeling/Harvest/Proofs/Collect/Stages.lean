import Harvest.Proofs.Collect.Accounting
import Harvest.Proofs.Collect.Completion

/-!
The way of a run through its stages. A tracker grants only requests that lead onward, so that no stage is
ever entered twice. A run asks for nothing that is not granted, wherever it is cut off, and its way ends
through success or through the recording of its failure, as its report says.
-/

namespace Harvest.Collect

namespace Stage

/-- How far a stage is on the way to the end. The two outcomes lie beside each other. -/
def rank : Stage → Nat
  | loadingConfig => 0
  | resolvingSource => 1
  | windowing => 2
  | fetchingFeed => 3
  | processingEntries => 4
  | success | recordingFailure => 5
  | done => 6

theorem rank_lt_of_canMove {source target : Stage} (moves : source.canMove target = true) :
    source.rank < target.rank := by
  revert moves
  cases source <;> cases target <;> decide

end Stage

namespace Tracker

/-! ### Any requests -/

/-- Every stage that a tracker was in, in order. -/
def visited (t : Tracker) : List Stage := .loadingConfig :: t.entered

/-- A tracker after requests for these stages, whatever became of them. -/
def requestAll (t : Tracker) (targets : List Stage) : Tracker :=
  targets.foldl (fun t target => (t.advance target).1) t

/-- A request that is refused leaves the stage as it was. -/
structure Refuses (t : Tracker) (target : Stage) : Prop where
  fault : (t.advance target).2 = .error (.invalidTransition t.stage target)
  stage : (t.advance target).1.stage = t.stage
  visited : (t.advance target).1.visited = t.visited

structure Grants (t : Tracker) (target : Stage) : Prop where
  ok : (t.advance target).2 = .ok ()
  onward : t.stage.rank < target.rank
  stage : (t.advance target).1.stage = target
  visited : (t.advance target).1.visited = t.visited ++ [target]

/-- A request is granted or refused, and nothing else. -/
theorem advance_cases (t : Tracker) (target : Stage) : t.Grants target ∨ t.Refuses target := by
  cases moves : t.stage.canMove target with
  | true =>
    have granted := advance_ok moves
    refine Or.inl ⟨?_, Stage.rank_lt_of_canMove moves, ?_, ?_⟩
    · rw [granted]
    · rw [granted]
    · rw [granted]
      simp [visited, entered]
  | false =>
    have refused : t.advance target = ({ t with requests := t.requests ++ [⟨target, false⟩] },
        .error (.invalidTransition t.stage target)) := by
      simp [advance, Stage.advance, moves]
    refine Or.inr ⟨?_, ?_, ?_⟩
    · rw [refused]
    · rw [refused]
    · rw [refused]
      simp [visited, entered]

/-- A tracker has only ever gone onward, up to the stage where it is. -/
structure Climbs (t : Tracker) : Prop where
  onward : t.visited.Pairwise fun earlier later => earlier.rank < later.rank
  last : t.visited.getLast? = some t.stage

theorem Climbs.start : Climbs .start := ⟨List.pairwise_singleton _ _, rfl⟩

theorem Climbs.rank_le {t : Tracker} (climbs : t.Climbs) {stage : Stage} (member : stage ∈ t.visited) :
    stage.rank ≤ t.stage.rank := by
  obtain ⟨front, split⟩ := List.getLast?_eq_some_iff.mp climbs.last
  have onward := climbs.onward
  rw [split] at onward member
  rcases List.mem_append.mp member with earlier | last
  · exact Nat.le_of_lt ((List.pairwise_append.mp onward).2.2 stage earlier t.stage List.mem_cons_self)
  · exact Nat.le_of_eq (congrArg Stage.rank (List.mem_singleton.mp last))

theorem Climbs.advance {t : Tracker} (climbs : t.Climbs) (target : Stage) : (t.advance target).1.Climbs := by
  rcases t.advance_cases target with granted | refused
  · refine ⟨?_, ?_⟩
    · rw [granted.visited]
      refine List.pairwise_append.mpr ⟨climbs.onward, List.pairwise_singleton _ _, ?_⟩
      intro earlier member later new
      rw [List.mem_singleton.mp new]
      exact Nat.lt_of_le_of_lt (climbs.rank_le member) granted.onward
    · rw [granted.visited, granted.stage]
      exact List.getLast?_concat
  · refine ⟨?_, ?_⟩
    · rw [refused.visited]
      exact climbs.onward
    · rw [refused.visited, refused.stage]
      exact climbs.last

theorem Climbs.requestAll {t : Tracker} (climbs : t.Climbs) (targets : List Stage) :
    (t.requestAll targets).Climbs := by
  induction targets generalizing t with
  | nil => exact climbs
  | cons target rest ih => exact ih (climbs.advance target)

theorem Climbs.nodup {t : Tracker} (climbs : t.Climbs) : t.visited.Nodup := by
  refine climbs.onward.imp ?_
  rintro earlier later onward rfl
  exact Nat.lt_irrefl _ onward

/-! ### The requests of a run -/

theorem entered_along (way : List Stage) : (along way).entered = way := by
  simp [along, entered, List.filter_map, Function.comp_def]

theorem granted_along {way : List Stage} {request : StageRequest} (member : request ∈ (along way).requests) :
    request.granted = true := by
  obtain ⟨stage, -, rfl⟩ := List.mem_map.mp member
  rfl

end Tracker

/-- How a run went through its stages, by its report: every request was granted, and on its way to the end
it passed either success or the recording of its failure. -/
structure Progress.Staged (report : Progress) : Prop where
  granted : ∀ request ∈ report.tracker.requests, request.granted = true
  ended : report.tracker.stage = .done
  success : .success ∈ report.tracker.entered ↔ report.result.failure = none
  failure : .recordingFailure ∈ report.tracker.entered ↔ report.result.failure ≠ none
  apart : ¬ (.success ∈ report.tracker.entered ∧ .recordingFailure ∈ report.tracker.entered)

theorem Progress.Concluded.staged {report : Progress} (concluded : report.Concluded) : report.Staged := by
  cases concluded with
  | success unfailed way =>
    have entered : report.tracker.entered = Stage.working ++ [.success, .done] := by
      rw [way, Tracker.entered_along]
    refine ⟨?_, ?_, ?_, ?_, ?_⟩
    · rw [way]
      exact fun _ => Tracker.granted_along
    · rw [way]
      rfl
    · rw [entered]
      exact iff_of_true (by decide) unfailed
    · rw [entered]
      exact iff_of_false (by decide) (not_not_intro unfailed)
    · rw [entered]
      decide
  | failure failed front begun reached way =>
    have entered : report.tracker.entered = front ++ [.recordingFailure, .done] := by
      rw [way, Tracker.entered_along]
    have unsuccessful : .success ∉ report.tracker.entered := by
      rw [entered, List.mem_append, not_or]
      exact ⟨fun member => absurd (reached.subset member) (by decide), by decide⟩
    have recorded : .recordingFailure ∈ report.tracker.entered := by
      rw [entered]
      exact List.mem_append_right _ List.mem_cons_self
    refine ⟨?_, ?_, iff_of_false unsuccessful failed, iff_of_true recorded failed, ?_⟩
    · rw [way]
      exact fun _ => Tracker.granted_along
    · rw [way]
      simp [Tracker.along]
    · exact fun both => unsuccessful both.1

namespace Job

/-- Whatever a run reads and is answered, and wherever it is cut off, it goes through its stages as it
should, and so it does when it is performed. Whatever a tracker is asked for, no stage is entered twice,
and a request that is refused changes nothing. -/
theorem run_goes_through_stages (job : Job) :
    job.run.Yields job.ReachesAt Progress.Staged ∧
    (∀ site, job.Reaches site → ∃ later report, site.perform job.run = (later, some report) ∧ report.Staged) ∧
    ∀ targets : List Stage, let t := Tracker.start.requestAll targets
      t.visited.Nodup ∧ t.visited.getLast? = some t.stage ∧
        ∀ target, t.Grants target ∨ t.Refuses target := by
  have staged : job.run.Yields job.ReachesAt Progress.Staged :=
    job.run_concludes.mono fun _ done => done.2.staged
  refine ⟨staged, fun site reach => ?_, fun targets => ?_⟩
  · have reads (clocks : Clocks) (same : clocks.now = site.session.clocks.now) : job.ReachesAt clocks := by
      unfold ReachesAt
      rw [same]
      exact reach
    obtain ⟨report, later, performed, -, staged⟩ := site.ends_of_yields staged reads
    exact ⟨later, report, performed, staged⟩
  · have climbs := Tracker.Climbs.start.requestAll targets
    exact ⟨climbs.nodup, climbs.last, fun target => Tracker.advance_cases _ target⟩

end Job

set_option maxRecDepth 10000 in
/-- The time runs out during the third entry, and the failure is recorded from there. -/
theorem run_goes_through_stages_stalling : briefJob.Reaches stallingSite ∧
    (stallingSite.perform briefJob.run).2.map (·.tracker.entered) =
      some (Stage.working ++ [.recordingFailure, .done]) ∧
    (∃ later report, stallingSite.perform briefJob.run = (later, some report) ∧ report.Staged) ∧
    (Tracker.start.requestAll [.windowing, .resolvingSource, .resolvingSource]).visited =
      [.loadingConfig, .resolvingSource] ∧
    (Tracker.start.requestAll [.windowing, .resolvingSource, .resolvingSource]).visited.Nodup :=
  have reach : briefJob.Reaches stallingSite := by
    unfold Job.Reaches
    decide +kernel
  have stages := Job.run_goes_through_stages briefJob
  ⟨reach, by decide +kernel, stages.2.1 stallingSite reach, by decide, (stages.2.2 _).1⟩

end Harvest.Collect
