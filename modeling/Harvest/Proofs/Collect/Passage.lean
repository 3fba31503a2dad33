import Harvest.Proofs.Collect.Upshot

/-!
The passage of a run through its stages, performed at a site. Whatever the session tells, and whatever
the store holds, the run comes to its upshot.
-/

namespace Harvest.Collect

open Web (Activity Fetching Session)

namespace Job

variable {job : Job} {site : Site} {sourceId : Int} {deadline : Option Nat}

/-- The window in which duplicates are looked for lies within the calendar. -/
def Reaches (job : Job) (site : Site) : Prop :=
  (Store.daysBefore? site.session.clocks.now job.config.collection.dedupWindowDays).isSome = true

theorem Reaches.later (reach : job.Reaches site) {later : Site}
    (now : later.session.clocks.now = site.session.clocks.now) : job.Reaches later := by
  unfold Reaches
  rw [now]
  exact reach

/-- How a part of a run that goes through entries ends: as was told. -/
structure Passes (job : Job) (site : Site) (sourceId : Int) (range : ObservedRange) (told : Told)
    (late : Bool) (outcome : Except Fault ObservedRange) (earlier later : RunResult) (ended : Site) :
    Prop where
  late : late = told.isLate
  outcome : outcome = match told.fault? job with
    | none => .ok (told.range range)
    | some fault => .error fault
  result : later = earlier.told told
    (job.handleAll site.session.clocks.now sourceId site.store told.readings).2
  store : ended.store = (job.handleAll site.session.clocks.now sourceId site.store told.readings).1

private theorem Passes.nothing (ending : Ending) {range : ObservedRange} {r : RunResult} {ended : Site}
    (before : ∀ entry, ending ≠ .late (some entry)) (same : ended.store = site.store) :
    job.Passes site sourceId range ⟨[], ending⟩ (Told.isLate ⟨[], ending⟩)
      (match Told.fault? job ⟨[], ending⟩ with
        | none => .ok range
        | some fault => .error fault) r r ended := by
  refine ⟨rfl, rfl, ?_, same⟩
  unfold RunResult.told
  dsimp only [handleAll]
  split
  next entry => exact absurd rfl (before entry)
  next => exact (RunResult.tallied_nil r).symm

private theorem Passes.cons {range : ObservedRange} {told : Told} {late : Bool}
    {ended : Except Fault ObservedRange} {r later : RunResult} {middle last : Site} {entry : Feed.Entry}
    {reading : Reading} {outcome : Except Store.Error EntryOutcome}
    (handled : job.handle site.session.clocks.now sourceId site.store entry reading =
      (middle.store, outcome)) (now : middle.session.clocks.now = site.session.clocks.now)
    (passes : job.Passes middle sourceId (match entry.timestamp with
      | some t => range.record t
      | none => range) told late ended (count entry outcome { r with fetched := r.fetched + 1 }) later last) :
    job.Passes site sourceId range { told with readings := (entry, reading) :: told.readings } late ended
      r later last := by
  have all : job.handleAll site.session.clocks.now sourceId site.store ((entry, reading) :: told.readings) =
      ((job.handleAll middle.session.clocks.now sourceId middle.store told.readings).1, (entry, outcome) ::
        (job.handleAll middle.session.clocks.now sourceId middle.store told.readings).2) := by
    rw [handleAll, handled, now]
  refine ⟨passes.late, passes.outcome, ?_, ?_⟩
  · rw [passes.result, all]
    unfold RunResult.told
    dsimp only
    split
    · rw [RunResult.tallied_cons]
    · rw [RunResult.tallied_cons]
  · rw [passes.store, all]

/-- What is left of a run after its stages. -/
private def concluded (now : Instant) (outcome : Except Fault Unit) (r : RunResult) (store : Store) :
    Store × RunResult :=
  match outcome with
  | .ok _ => (store, r)
  | .error fault =>
    (match r.sourceId with
      | some id => noted store now id fault
      | none => store, r.recordFailure fault)

end Job

end Harvest.Collect
