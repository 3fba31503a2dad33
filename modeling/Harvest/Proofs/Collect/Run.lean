import Harvest.Proofs.Collect.Work

/-!
What every run does: its source is resolved in its first turn, then the entries are submitted one by
one, and in its last turn it notes its outcome with the source. A condition that outlasts waits and
submissions holds from the first turn to the last.
-/

namespace Harvest.Collect

open Web (Activity Terms)
open Web.Activity (Stable)

/-- The text that a fault leaves in the errors of a run. -/
def Fault.report (fault : Fault) : String := "[" ++ fault.kind.name ++ "] " ++ fault.message

namespace RunResult

structure Succeeded (r : RunResult) (sourceId : Int) : Prop where
  sourceId : r.sourceId = some sourceId
  failure : r.failure = none

structure Failed (r : RunResult) (sourceId : Option Int) (fault : Fault) : Prop where
  sourceId : r.sourceId = sourceId
  failure : r.failure = some fault.kind
  report : r.errors.getLast? = some fault.report

end RunResult

namespace Job

variable {job : Job} {terms : Terms Store} {clocks : Clocks} {before state : Store}

/-! ### Entries -/

section Entries

variable {held : Clocks → Store → Store → Prop} {sourceId : Int}

/-- Submitting an item of the source leaves a condition in place. -/
def Submits (job : Job) (terms : Terms Store) (held : Clocks → Store → Store → Prop)
    (sourceId : Int) : Prop :=
  ∀ entry address content clocks before state, held clocks before state →
    (job.submit sourceId entry address content).Ensures terms
      (fun clocks before state _ => held clocks before state) clocks before state

/-- Submitting an item: the run crashes, the item is a duplicate, or it goes to the store in the turn
in which nothing like it was found. -/
theorem submit_ensures {result : Clocks → Store → Store → Except Store.Error EntryOutcome → Prop}
    {entry : Feed.Entry} {address content : String} (rests : terms.own before state)
    (found : ∀ duplicate, result clocks before state (.ok (.skipped (.duplicate duplicate))))
    (fresh : state.findDuplicate? clocks.now job.config.collection.dedupWindowDays
        ⟨address, address, contentHash content⟩ = some none →
      result clocks before (storeItem state (job.itemDraft sourceId clocks.now entry address content)).1
        (storeItem state (job.itemDraft sourceId clocks.now entry address content)).2) :
    (job.submit sourceId entry address content).Ensures terms result clocks before state := by
  unfold submit look
  rw [Activity.ensures_bind]
  simp only [Activity.Ensures]
  split
  next outcome looked =>
    cases outcome with
    | some duplicate => exact found duplicate.matchedOn
    | none => exact fresh looked
  next => exact rests

theorem processEntry_ensures (stable : Stable terms held) (submits : job.Submits terms held sourceId)
    (deadline : Option Nat) (entry : Feed.Entry) (holds : held clocks before state) :
    (job.processEntry deadline sourceId entry).Ensures terms
      (fun clocks before state _ => held clocks before state) clocks before state := by
  unfold processEntry
  split
  · exact holds
  rw [Activity.ensures_bind]
  refine ((job.fetching deadline).fetch_ensures _ stable holds).mono
    fun clocks before state fetched holds => ?_
  split
  · exact holds
  split
  · exact holds
  rw [Activity.ensures_bind]
  exact submits entry _ _ clocks before state holds

/-- What the handling of entries does not touch in a run's progress. -/
structure Onward (earlier later : Progress) : Prop where
  tracker : later.tracker = earlier.tracker
  sourceId : later.result.sourceId = earlier.result.sourceId
  failure : later.result.failure = earlier.result.failure

theorem Onward.trans {a b c : Progress} (first : Onward a b) (second : Onward b c) : Onward a c :=
  ⟨second.tracker.trans first.tracker, second.sourceId.trans first.sourceId,
    second.failure.trans first.failure⟩

theorem count_onward (entry : Feed.Entry) (outcome : Except Store.Error EntryOutcome)
    (progress : Progress) :
    Onward progress { progress with result := count entry outcome progress.result } := by
  match outcome with
  | .ok (.stored _) => exact ⟨rfl, rfl, rfl⟩
  | .ok (.skipped _) => exact ⟨rfl, rfl, rfl⟩
  | .error _ => exact ⟨rfl, rfl, rfl⟩

theorem processEntries_ensures (stable : Stable terms held) (submits : job.Submits terms held sourceId)
    (deadline : Option Nat) (entries : List Feed.Entry) (range : ObservedRange) (progress : Progress)
    (holds : held clocks before state) :
    (job.processEntries deadline sourceId range entries).Ensures terms
      (fun _ later clocks before state => Onward progress later ∧ held clocks before state)
      progress clocks before state := by
  induction entries generalizing range progress clocks before state with
  | nil => exact ⟨⟨rfl, rfl, rfl⟩, holds⟩
  | cons entry rest ih =>
    rw [processEntries, Work.ensures_bind, Work.ensures_tally, Work.ensures_bind, Work.ensures_inTime]
    refine (processEntry_ensures stable submits deadline entry holds).mono
      fun clocks before state outcome holds => ?_
    cases outcome with
    | none => exact ⟨⟨rfl, rfl, rfl⟩, holds⟩
    | some outcome =>
      dsimp only
      rw [Work.ensures_bind, Work.ensures_tally]
      refine (ih _ _ holds).mono fun _ later clocks before state done => ?_
      have begun : Onward progress
          { progress with result := { progress.result with fetched := progress.result.fetched + 1 } } :=
        ⟨rfl, rfl, rfl⟩
      exact ⟨(begun.trans (count_onward entry outcome _)).trans done.1, done.2⟩

theorem collectEntries_ensures (stable : Stable terms held) (submits : job.Submits terms held sourceId)
    (deadline : Option Nat) {progress : Progress} (stage : progress.tracker.stage = .fetchingFeed)
    (holds : held clocks before state) :
    (job.collectEntries deadline sourceId).Ensures terms
      (fun outcome later clocks before state => later.result.sourceId = progress.result.sourceId ∧
        later.result.failure = progress.result.failure ∧
        (outcome.isOk = true → later.tracker.stage = .processingEntries) ∧ held clocks before state)
      progress clocks before state := by
  unfold collectEntries
  rw [Work.ensures_bind, Work.ensures_inTime]
  refine ((job.fetching deadline).fetch_ensures _ stable holds).mono
    fun clocks before state fetched holds => ?_
  cases fetched with
  | none => exact ⟨rfl, rfl, nofun, holds⟩
  | some fetched =>
    cases fetched with
    | error e => exact ⟨rfl, rfl, nofun, holds⟩
    | ok fetched =>
      dsimp only
      rw [Work.ensures_bind, Work.ensures_pure]
      dsimp only
      cases Feed.read fetched.body with
      | error e => exact ⟨rfl, rfl, nofun, holds⟩
      | ok feed =>
        dsimp only
        rw [Work.ensures_bind, Work.ensures_pure]
        dsimp only
        rw [Work.ensures_bind, Work.ensures_enter (by rw [stage]; rfl)]
        refine (processEntries_ensures stable submits deadline _ _ _ holds).mono
          fun outcome later clocks before state done => ?_
        exact ⟨done.1.sourceId, done.1.failure, fun _ => by rw [done.1.tracker], done.2⟩

end Entries

/-! ### The whole run -/

/-- What carries a condition through a run that began at some instant: it may depend on the source as
it was when the run resolved it. -/
structure Carries (job : Job) (terms : Terms Store) (begun : Instant)
    (held : Source → Clocks → Store → Store → Prop) (result : Clocks → Store → Store → RunResult → Prop) :
    Prop where
  stable : ∀ source, Stable terms (held source)
  submits : ∀ source, job.Submits terms (held source) source.id
  succeeds : ∀ source clocks before state later r, held source clocks before state →
    state.recordSuccess source.id (advanceWatermark source.watermark begun) clocks.now = .ok later →
    r.Succeeded source.id → result clocks before later r
  fails : ∀ source clocks before state fault r, held source clocks before state →
    r.Failed (some source.id) fault →
    result clocks before
      ((state.recordFailure source.id (Store.clipError fault.message) clocks.now).toOption.getD state) r

private theorem noteFailure_ensures {result : Clocks → Store → Store → Unit → Prop}
    {sourceId : Int} {fault : Fault} (noted : result clocks before
      ((state.recordFailure sourceId (Store.clipError fault.message) clocks.now).toOption.getD state) ()) :
    (noteFailure sourceId fault).Ensures terms result clocks before state := by
  unfold noteFailure
  cases done : state.recordFailure sourceId (Store.clipError fault.message) clocks.now with
  | ok later => simpa [Activity.transact, Activity.Ensures, done, Except.toOption] using noted
  | error e => simpa [Activity.transact, Activity.Ensures, done, Except.toOption] using noted

section Run

variable {held : Source → Clocks → Store → Store → Prop}
  {result : Clocks → Store → Store → RunResult → Prop}

/-- Where the stages of a run may end: with a success noted, with a fault before its source is
resolved, or with a fault after that. -/
private def StagesEnd (held : Source → Clocks → Store → Store → Prop)
    (result : Clocks → Store → Store → RunResult → Prop) (outcome : Except Fault Unit)
    (progress : Progress) (clocks : Clocks) (before state : Store) : Prop :=
  match outcome with
  | .ok () =>
    ∃ id, progress.result.Succeeded id ∧ ∀ r : RunResult, r.Succeeded id → result clocks before state r
  | .error fault =>
    (progress.result.sourceId = none ∧
      ∀ r : RunResult, r.Failed none fault → result clocks before state r) ∨
      ∃ source, progress.result.sourceId = some source.id ∧ held source clocks before state

private theorem stages_ensures (carries : job.Carries terms clocks.now held result)
    (resolved : ∀ source later, state.upsertSource clocks.now job.sourceDraft = (later, .ok source) →
      held source clocks before later)
    (unresolved : ∀ e later r, state.upsertSource clocks.now job.sourceDraft = (later, .error e) →
      RunResult.Failed r none (.store e) → result clocks before later r) :
    job.stages.Ensures terms (StagesEnd held result) ⟨.start, .new job.feed.name⟩
      clocks before state := by
  unfold stages
  rw [Work.ensures_bind, Work.ensures_enter rfl]
  dsimp only
  rw [Work.ensures_bind, Work.ensures_transact]
  cases done : state.upsertSource clocks.now job.sourceDraft with
  | mk later outcome =>
  cases outcome with
  | error e => exact Or.inl ⟨rfl, fun r => unresolved e later r done⟩
  | ok source =>
    have holds := resolved source later done
    dsimp only [Except.mapError]
    rw [Work.ensures_bind, Work.ensures_tally]
    dsimp only
    rw [Work.ensures_bind, Work.ensures_enter rfl]
    dsimp only
    rw [Work.ensures_bind, Work.ensures_clocks]
    dsimp only
    rw [Work.ensures_bind, Work.ensures_tally]
    dsimp only
    rw [Work.ensures_bind, Work.ensures_enter rfl]
    dsimp only
    rw [Work.ensures_bind]
    refine (collectEntries_ensures (carries.stable source) (carries.submits source) _ rfl holds).mono
      fun outcome progress turn before state ended => ?_
    obtain ⟨sourceId, failure, stage, holds⟩ := ended
    cases outcome with
    | error fault => exact Or.inr ⟨source, sourceId, holds⟩
    | ok range =>
      have stage := stage rfl
      dsimp only
      rw [Work.ensures_bind, Work.ensures_transact]
      dsimp only [WindowPlan.observe]
      cases noted : state.recordSuccess source.id (advanceWatermark source.watermark clocks.now) turn.now with
      | error e => exact Or.inr ⟨source, sourceId, holds⟩
      | ok later =>
        dsimp only [Except.mapError]
        rw [Work.ensures_bind, Work.ensures_enter (by rw [stage]; rfl)]
        dsimp only
        rw [Work.ensures_bind, Work.ensures_tally]
        dsimp only
        rw [Work.ensures_enter rfl]
        exact ⟨source.id, ⟨sourceId, failure⟩,
          fun r => carries.succeeds source turn before state later r holds noted⟩

theorem run_eq (job : Job) : job.run = Activity.clocks.bind fun start =>
    (job.stages.activity ⟨.start, .new job.feed.name⟩).bind fun ended =>
      (match ended with
        | (.ok (), progress) => Activity.done progress
        | (.error fault, progress) => conclude fault progress).bind fun report =>
      Activity.clocks.bind fun stop =>
        .done { report with
          result := { report.result with duration := stop.uptime - start.uptime } } := by
  unfold run
  change Activity.bind _ _ = _
  congr 1
  funext start
  change Activity.bind _ _ = _
  congr 1
  funext ended
  obtain ⟨outcome, progress⟩ := ended
  cases outcome with
  | ok _ => rfl
  | error _ => rfl

private theorem conclude_ensures {result : Clocks → Store → Store → Report → Prop} {fault : Fault}
    {progress : Progress}
    (concluded : ∀ tracker r, r.Failed progress.result.sourceId fault → result clocks before
      (match progress.result.sourceId with
        | some id => (state.recordFailure id (Store.clipError fault.message) clocks.now).toOption.getD state
        | none => state) ⟨tracker, r⟩) :
    (conclude fault progress).Ensures terms result clocks before state := by
  have failed : (progress.result.recordFailure fault).Failed progress.result.sourceId fault :=
    ⟨rfl, rfl, List.getLast?_concat ..⟩
  unfold conclude
  dsimp only [RunResult.recordFailure]
  cases id : progress.result.sourceId with
  | none =>
    rw [id] at concluded
    exact concluded _ _ (id ▸ failed)
  | some sourceId =>
    rw [id] at concluded
    change Activity.Ensures terms result (Activity.bind (noteFailure sourceId fault) _)
      clocks before state
    rw [Activity.ensures_bind]
    exact noteFailure_ensures (concluded _ _ (id ▸ failed))

/-- A run ends in a result, and what it needs for that outlasts its waits. -/
theorem run_ensures (carries : job.Carries terms clocks.now held result)
    (resolved : ∀ source later, state.upsertSource clocks.now job.sourceDraft = (later, .ok source) →
      held source clocks before later)
    (unresolved : ∀ e later r, state.upsertSource clocks.now job.sourceDraft = (later, .error e) →
      RunResult.Failed r none (.store e) → result clocks before later r) :
    job.run.Ensures terms (fun clocks before state report => result clocks before state report.result)
      clocks before state := by
  rw [run_eq, Activity.ensures_bind]
  change Activity.Ensures terms _ (Activity.bind _ _) clocks before state
  rw [Activity.ensures_bind]
  refine Activity.Ensures.mono (stages_ensures carries resolved unresolved)
    fun turn before state ended done => ?_
  rw [Activity.ensures_bind]
  obtain ⟨outcome, progress⟩ := ended
  cases outcome with
  | ok _ =>
    obtain ⟨id, ⟨sourceId, failure⟩, noted⟩ := done
    exact noted _ ⟨sourceId, failure⟩
  | error fault =>
    refine conclude_ensures fun tracker r failed => ?_
    obtain ⟨sourceId, failure, report⟩ := failed
    rcases done with ⟨unknown, noted⟩ | ⟨source, known, holds⟩
    · rw [unknown] at sourceId ⊢
      exact noted _ ⟨sourceId, failure, report⟩
    · rw [known] at sourceId ⊢
      exact carries.fails source turn before state fault _ holds ⟨sourceId, failure, report⟩

end Run

end Job

end Harvest.Collect
