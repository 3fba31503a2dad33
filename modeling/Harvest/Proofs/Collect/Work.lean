import Harvest.Collect.Run
import Harvest.Proofs.Web.Activity

/-!
Parts of a run as activities: each part starts from some progress and ends with progress and an
outcome. A fault ends a sequence of parts, and every other part goes on from where the one before got.
-/

namespace Harvest.Collect

open Web (Activity Terms)

namespace Tracker

theorem advance_ok {t : Tracker} {target : Stage} (moves : t.stage.canMove target = true) :
    t.advance target = (⟨target, t.requests ++ [⟨target, true⟩]⟩, .ok ()) := by
  simp [advance, Stage.advance, moves]

end Tracker

namespace Work

variable {α β : Type}

/-- A part of a run that starts from some progress. -/
def activity (work : Work α) (progress : Progress) : Activity Store (Except Fault α × Progress) :=
  (ExceptT.run work).run progress

theorem activity_bind (work : Work α) (next : α → Work β) (progress : Progress) :
    (work >>= next).activity progress = (work.activity progress).bind fun
      | (.ok a, progress) => (next a).activity progress
      | (.error fault, progress) => .done (.error fault, progress) := by
  change Activity.bind _ _ = _
  congr 1
  funext ⟨outcome, progress⟩
  cases outcome with
  | ok a => rfl
  | error fault => rfl

theorem activity_lift (activity : Activity Store α) (progress : Progress) :
    (liftM activity : Work α).activity progress = activity.bind fun a => .done (.ok a, progress) := by
  change Activity.bind (Activity.bind activity _) _ = _
  rw [Activity.bind_assoc]
  rfl

theorem activity_enter (target : Stage) (progress : Progress) :
    (enter target).activity progress = .done ((progress.tracker.advance target).2,
      { progress with tracker := (progress.tracker.advance target).1 }) := by
  unfold enter
  rw [activity_bind]
  change Activity.bind (.done (Except.ok progress, progress)) _ = _
  dsimp only [Activity.bind]
  rw [activity_bind]
  change Activity.bind (.done (Except.ok (), _)) _ = _
  dsimp only [Activity.bind]
  cases (progress.tracker.advance target).2 with
  | ok _ => rfl
  | error _ => rfl

theorem activity_transact (change : Clocks → Store → Store × Except Store.Error α) (progress : Progress) :
    (transact change).activity progress = (Activity.transact change).bind fun outcome =>
      .done (outcome.mapError .store, progress) := by
  unfold transact
  rw [activity_bind, activity_lift, Activity.bind_assoc]
  congr 1
  funext outcome
  cases outcome with
  | ok _ => rfl
  | error _ => rfl

theorem activity_inTime (job : Job) (activity : Activity Store (Option α)) (progress : Progress) :
    (job.inTime activity).activity progress = activity.bind fun
      | some a => .done (.ok a, progress)
      | none => .done (.error job.timeoutFault, progress) := by
  unfold Job.inTime
  rw [activity_bind, activity_lift, Activity.bind_assoc]
  congr 1
  funext outcome
  cases outcome with
  | none => rfl
  | some _ => rfl

/-! ### What a part ensures -/

/-- A part of a run goes on within its terms, and makes the result come true. -/
def Ensures (terms : Terms Store) (result : Except Fault α → Progress → Clocks → Store → Store → Prop)
    (work : Work α) (progress : Progress) : Clocks → Store → Store → Prop :=
  (work.activity progress).Ensures terms fun clocks before state ended =>
    result ended.1 ended.2 clocks before state

variable {terms : Terms Store} {progress : Progress} {clocks : Clocks} {before state : Store}

theorem ensures_bind {result : Except Fault β → Progress → Clocks → Store → Store → Prop} {work : Work α}
    {next : α → Work β} : (work >>= next).Ensures terms result progress clocks before state ↔
      work.Ensures terms (fun outcome progress clocks before state => match outcome with
        | .ok a => (next a).Ensures terms result progress clocks before state
        | .error fault => result (.error fault) progress clocks before state)
        progress clocks before state := by
  unfold Ensures
  rw [activity_bind, Activity.ensures_bind]
  apply iff_of_eq
  congr 1
  funext clocks before state ⟨outcome, progress⟩
  cases outcome with
  | ok _ => rfl
  | error _ => rfl

variable {result : Except Fault α → Progress → Clocks → Store → Store → Prop}

theorem ensures_pure {a : α} : (pure a : Work α).Ensures terms result progress clocks before state ↔
    result (.ok a) progress clocks before state := Iff.rfl

theorem Ensures.mono {result' : Except Fault α → Progress → Clocks → Store → Store → Prop} {work : Work α}
    (ensures : work.Ensures terms result progress clocks before state)
    (weaker : ∀ outcome progress clocks before state, result outcome progress clocks before state →
      result' outcome progress clocks before state) :
    work.Ensures terms result' progress clocks before state :=
  Activity.Ensures.mono ensures fun clocks before state ended =>
    weaker ended.1 ended.2 clocks before state

theorem ensures_enter {result : Except Fault Unit → Progress → Clocks → Store → Store → Prop}
    {target : Stage} (moves : progress.tracker.stage.canMove target = true) :
    (enter target).Ensures terms result progress clocks before state ↔
      result (.ok ()) { progress with tracker := ⟨target, progress.tracker.requests ++ [⟨target, true⟩]⟩ }
        clocks before state := by
  unfold Ensures
  rw [activity_enter, Tracker.advance_ok moves]
  exact Iff.rfl

theorem ensures_tally {result : Except Fault Unit → Progress → Clocks → Store → Store → Prop}
    {change : RunResult → RunResult} : (tally change).Ensures terms result progress clocks before state ↔
      result (.ok ()) { progress with result := change progress.result } clocks before state := Iff.rfl

theorem ensures_clocks {result : Except Fault Clocks → Progress → Clocks → Store → Store → Prop} :
    Work.clocks.Ensures terms result progress clocks before state ↔
      result (.ok clocks) progress clocks before state := Iff.rfl

theorem ensures_transact {change : Clocks → Store → Store × Except Store.Error α} :
    (transact change).Ensures terms result progress clocks before state ↔
      result ((change clocks state).2.mapError .store) progress clocks before
        (change clocks state).1 := by
  unfold Ensures
  rw [activity_transact]
  exact Iff.rfl

theorem ensures_inTime {job : Job} {activity : Activity Store (Option α)} :
    (job.inTime activity).Ensures terms result progress clocks before state ↔
      activity.Ensures terms (fun clocks before state outcome => match outcome with
        | some a => result (.ok a) progress clocks before state
        | none => result (.error job.timeoutFault) progress clocks before state) clocks before state := by
  unfold Ensures
  rw [activity_inTime, Activity.ensures_bind]
  apply iff_of_eq
  congr 1
  funext clocks before state outcome
  cases outcome with
  | none => rfl
  | some _ => rfl

/-! ### What a part yields -/

section Yields

variable {shown : Clocks → Prop} {result : Except Fault α → Progress → Prop}

/-- Whatever a part of a run reads at such clocks and whatever it is answered, it comes to an outcome of a
kind. -/
def Yields (shown : Clocks → Prop) (result : Except Fault α → Progress → Prop) (work : Work α)
    (progress : Progress) : Prop :=
  (work.activity progress).Yields shown fun ended => result ended.1 ended.2

theorem yields_bind {result : Except Fault β → Progress → Prop} {work : Work α} {next : α → Work β} :
    (work >>= next).Yields shown result progress ↔ work.Yields shown (fun outcome progress =>
      match outcome with
      | .ok a => (next a).Yields shown result progress
      | .error fault => result (.error fault) progress) progress := by
  unfold Yields
  rw [activity_bind, Activity.yields_bind]
  apply iff_of_eq
  congr 1
  funext ⟨outcome, progress⟩
  cases outcome with
  | ok _ => rfl
  | error _ => rfl

theorem Yields.mono {result' : Except Fault α → Progress → Prop} {work : Work α}
    (yields : work.Yields shown result progress)
    (weaker : ∀ outcome progress, result outcome progress → result' outcome progress) :
    work.Yields shown result' progress :=
  Activity.Yields.mono yields fun ended => weaker ended.1 ended.2

theorem yields_pure {a : α} : (pure a : Work α).Yields shown result progress ↔ result (.ok a) progress :=
  Iff.rfl

theorem yields_enter {result : Except Fault Unit → Progress → Prop} {target : Stage} :
    (enter target).Yields shown result progress ↔ result (progress.tracker.advance target).2
      { progress with tracker := (progress.tracker.advance target).1 } := by
  unfold Yields
  rw [activity_enter]
  exact Iff.rfl

theorem yields_tally {result : Except Fault Unit → Progress → Prop} {change : RunResult → RunResult} :
    (tally change).Yields shown result progress ↔
      result (.ok ()) { progress with result := change progress.result } := Iff.rfl

theorem yields_clocks {result : Except Fault Clocks → Progress → Prop} :
    Work.clocks.Yields shown result progress ↔
      ∀ (clocks : Clocks) (_ : Store), shown clocks → result (.ok clocks) progress := Iff.rfl

theorem yields_transact {change : Clocks → Store → Store × Except Store.Error α} :
    (transact change).Yields shown result progress ↔ ∀ clocks state, shown clocks →
      result ((change clocks state).2.mapError .store) progress := by
  unfold Yields
  rw [activity_transact]
  exact Iff.rfl

theorem yields_inTime {job : Job} {activity : Activity Store (Option α)} :
    (job.inTime activity).Yields shown result progress ↔ activity.Yields shown fun
      | some a => result (.ok a) progress
      | none => result (.error job.timeoutFault) progress := by
  unfold Yields
  rw [activity_inTime, Activity.yields_bind]
  apply iff_of_eq
  congr 1
  funext outcome
  cases outcome with
  | none => rfl
  | some _ => rfl

end Yields

end Work

end Harvest.Collect
