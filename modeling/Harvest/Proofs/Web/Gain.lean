import Harvest.Web.Fetch
import Mathlib.Tactic.Common

/-!
What an activity adds to a measure of the shared state. Only its own steps are counted, so that the gains of
activities side by side add up, in whatever order they go on. A fetch adds nothing.
-/

namespace Harvest.Web

namespace Activity

variable {σ α β : Type} {size : σ → Nat} {result : Nat → α → Prop} {gained : Nat}

/-- None of the activity's steps lowers the measure, and in the end its result fits what all of them have
added, together with what was gained before. -/
def Gains (size : σ → Nat) (result : Nat → α → Prop) : (gained : Nat) → Activity σ α → Prop
  | gained, done a => result gained a
  | gained, step write next => ∀ clocks state, ∃ more, size (write clocks state) = size state + more ∧
    (next clocks state).Gains size result (gained + more)
  | gained, await _ _ next => ∀ answer, (next answer).Gains size result gained
  | _, crash => True

theorem gains_bind {result : Nat → β → Prop} {activity : Activity σ α} {next : α → Activity σ β} :
    (activity.bind next).Gains size result gained ↔
      activity.Gains size (fun gained a => (next a).Gains size result gained) gained := by
  induction activity generalizing gained with
  | done a => exact Iff.rfl
  | step write go ih =>
    exact forall_congr' fun clocks => forall_congr' fun state => exists_congr fun more =>
      and_congr_right fun _ => ih clocks state
  | await deadline wait go ih => exact forall_congr' fun answer => ih answer
  | crash => exact Iff.rfl

theorem Gains.mono {result' : Nat → α → Prop} {activity : Activity σ α}
    (gains : activity.Gains size result gained) (weaker : ∀ gained a, result gained a → result' gained a) :
    activity.Gains size result' gained := by
  induction activity generalizing gained with
  | done a => exact weaker gained a gains
  | step write go ih =>
    intro clocks state
    obtain ⟨more, grown, onward⟩ := gains clocks state
    exact ⟨more, grown, ih clocks state onward⟩
  | await deadline wait go ih => exact fun answer => ih answer (gains answer)
  | crash => trivial

/-- What a turn adds. -/
theorem Gains.settle {activity : Activity σ α} (gains : activity.Gains size result gained) (clocks : Clocks)
    (state : σ) : ∃ more, size (activity.settle clocks state).1 = size state + more ∧
      (activity.settle clocks state).2.Gains size result (gained + more) := by
  induction activity generalizing gained state with
  | step write go ih =>
    obtain ⟨more, grown, onward⟩ := gains clocks state
    obtain ⟨further, grown', settled⟩ := ih clocks state onward (write clocks state)
    refine ⟨more + further, ?_, ?_⟩
    · rw [Activity.settle, grown', grown, Nat.add_assoc]
    · rw [Activity.settle, ← Nat.add_assoc]
      exact settled
  | done | await | crash => exact ⟨0, rfl, gains⟩

theorem gains_clocks {result : Nat → Clocks → Prop} (is : ∀ clocks, result gained clocks) :
    (clocks : Activity σ Clocks).Gains size result gained := fun clocks _ => ⟨0, rfl, is clocks⟩

end Activity

namespace Fetching

open Activity

variable {σ : Type} {size : σ → Nat}

private theorem tryOnce_gains (f : Fetching) (url : String) (attempt gained : Nat) :
    (f.tryOnce url attempt : Activity σ _).Gains size (fun later _ => later = gained) gained := by
  rintro (none | turn)
  · exact rfl
  · dsimp only
    split
    · exact rfl
    · rintro (none | outcome)
      · exact rfl
      · exact rfl

theorem fetch_gains (f : Fetching) (url : String) (gained : Nat) :
    (f.fetch url : Activity σ _).Gains size (fun later _ => later = gained) gained := by
  suffices attempts : ∀ left attempt, (f.attempts url attempt left : Activity σ _).Gains size
      (fun later _ => later = gained) gained from attempts f.maxRetries 0
  intro left
  induction left with
  | zero =>
    intro attempt
    rw [Fetching.attempts, gains_bind]
    exact f.tryOnce_gains url attempt gained
  | succ left ih =>
    intro attempt
    rw [Fetching.attempts, gains_bind]
    refine (f.tryOnce_gains url attempt gained).mono fun later outcome same => ?_
    subst same
    split
    · split
      · refine gains_bind.mpr (gains_clocks fun clocks => ?_)
        rintro (none | paused)
        · exact rfl
        · exact ih (attempt + 1)
      · exact rfl
    · exact rfl

end Fetching

end Harvest.Web
