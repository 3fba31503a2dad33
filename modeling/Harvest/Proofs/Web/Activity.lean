import Harvest.Web.Fetch
import Mathlib.Tactic.Common

/-!
Reasoning about one activity among others. A turn is what an activity does between two waits. Terms say
what others may do to the state while the activity waits, and what it may do itself in a turn; under
its terms an activity ensures something about its result in whatever company it runs.
-/

namespace Harvest.Web

/-- What an activity counts on, and what it owes. -/
structure Terms (σ : Type) where
  /-- What the clocks may show in a turn. -/
  shown : Clocks → Prop
  /-- What others may do to the state during a wait. -/
  others : σ → σ → Prop
  /-- What a turn of the activity may do to the state. -/
  own : σ → σ → Prop

/-- The same terms, under which also a condition on the state holds at every wait. -/
def Terms.resting {σ : Type} (terms : Terms σ) (rests : σ → Prop) : Terms σ :=
  { terms with own := fun before state => terms.own before state ∧ rests state }

/-- Ends a wait, and no other. -/
def Wait.ending (wait : Wait) (answer : Option wait.Answer) (other : Wait) : Option other.Answer :=
  if same : wait = other then same ▸ answer else none

theorem Wait.ending_self (wait : Wait) (answer : Option wait.Answer) : wait.ending answer wait = answer := by
  simp [ending]

namespace Activity

variable {σ α β γ : Type}

theorem bind_assoc (activity : Activity σ α) (next : α → Activity σ β) (last : β → Activity σ γ) :
    (activity.bind next).bind last = activity.bind fun a => (next a).bind last := by
  induction activity with
  | done a => rfl
  | step write go ih =>
    exact congrArg (step write) (funext fun clocks => funext fun state => ih clocks state)
  | await deadline wait go ih => exact congrArg (await deadline wait) (funext ih)
  | crash => rfl

/-- In a turn with these clocks that began in the state `before` and got to `state`, the activity goes
on within its terms, and whatever ends it makes the result come true. -/
def Ensures (terms : Terms σ) (result : Clocks → σ → σ → α → Prop) :
    Activity σ α → Clocks → σ → σ → Prop
  | done a, clocks, before, state => result clocks before state a
  | step write next, clocks, before, state =>
    (next clocks state).Ensures terms result clocks before (write clocks state)
  | await _ _ next, _, before, state =>
    terms.own before state ∧ ∀ answer clocks state', terms.shown clocks → terms.others state state' →
      (next answer).Ensures terms result clocks state' state'
  | crash, _, before, state => terms.own before state

variable {terms : Terms σ} {result : Clocks → σ → σ → α → Prop} {activity : Activity σ α}
  {clocks : Clocks} {before state : σ}

theorem ensures_bind {result : Clocks → σ → σ → β → Prop} {next : α → Activity σ β} :
    (activity.bind next).Ensures terms result clocks before state ↔
      activity.Ensures terms (fun clocks before state a =>
        (next a).Ensures terms result clocks before state)
        clocks before state := by
  induction activity generalizing clocks before state with
  | done a => exact Iff.rfl
  | step write go ih => exact ih clocks state
  | await deadline wait go ih =>
    exact and_congr_right fun _ => forall_congr' fun answer => forall_congr' fun _ =>
      forall_congr' fun _ =>
      imp_congr_right fun _ => imp_congr_right fun _ => ih answer
  | crash => exact Iff.rfl

theorem Ensures.mono {result' : Clocks → σ → σ → α → Prop}
    (ensures : activity.Ensures terms result clocks before state)
    (weaker : ∀ clocks before state a, result clocks before state a → result' clocks before state a) :
    activity.Ensures terms result' clocks before state := by
  induction activity generalizing clocks before state with
  | done a => exact weaker clocks before state a ensures
  | step write go ih => exact ih clocks state ensures
  | await deadline wait go ih =>
    exact ⟨ensures.1, fun answer clocks state' shown moved =>
      ih answer (ensures.2 answer clocks state' shown moved)⟩
  | crash => exact ensures

/-- What a turn leaves behind: its last state, and the rest of the activity, which is at a wait or at
its end. -/
theorem Ensures.settle (ensures : activity.Ensures terms result clocks before state) :
    (activity.settle clocks state).2.Ensures terms result clocks before
      (activity.settle clocks state).1 := by
  induction activity generalizing state with
  | done a => exact ensures
  | step write go ih => exact ih clocks state ensures
  | await deadline wait go ih => exact ensures
  | crash => exact ensures

/-- Whether the activity is at a wait or at its end. -/
def isSettled : Activity σ α → Bool
  | step .. => false
  | _ => true

theorem settle_isSettled : (activity.settle clocks state).2.isSettled = true := by
  induction activity generalizing state with
  | step write go ih => exact ih clocks state
  | done | await | crash => rfl

theorem settle_of_isSettled (settled : activity.isSettled = true) :
    activity.settle clocks state = (state, activity) := by
  cases activity with
  | step write next => cases settled
  | done | await | crash => rfl

/-! ### Results -/

/-- Whatever the activity reads at such clocks and whatever it is answered, it comes to a result of a
kind, and does not crash. -/
def Yields (shown : Clocks → Prop) (result : α → Prop) : Activity σ α → Prop
  | done a => result a
  | step _ next => ∀ clocks state, shown clocks → (next clocks state).Yields shown result
  | await _ _ next => ∀ answer, (next answer).Yields shown result
  | crash => False

section Yields

variable {shown : Clocks → Prop} {yield : α → Prop}

theorem yields_bind {yield : β → Prop} {next : α → Activity σ β} :
    (activity.bind next).Yields shown yield ↔
      activity.Yields shown fun a => (next a).Yields shown yield := by
  induction activity with
  | done a => exact Iff.rfl
  | step write go ih =>
    exact forall_congr' fun clocks => forall_congr' fun state => imp_congr_right fun _ => ih clocks state
  | await deadline wait go ih => exact forall_congr' ih
  | crash => exact Iff.rfl

theorem Yields.mono {yield' : α → Prop} (yields : activity.Yields shown yield)
    (weaker : ∀ a, yield a → yield' a) : activity.Yields shown yield' := by
  induction activity with
  | done a => exact weaker a yields
  | step write go ih => exact fun clocks state showing => ih clocks state (yields clocks state showing)
  | await deadline wait go ih => exact fun answer => ih answer (yields answer)
  | crash => exact yields

theorem Yields.settle (yields : activity.Yields shown yield) (showing : shown clocks) :
    (activity.settle clocks state).2.Yields shown yield := by
  induction activity generalizing state with
  | done a => exact yields
  | step write go ih => exact ih clocks state (yields clocks state showing)
  | await deadline wait go ih => exact yields
  | crash => exact yields

end Yields

/-! ### Fetching -/

/-- A condition that lets an activity wait, and outlasts every wait. -/
def Stable (terms : Terms σ) (held : Clocks → σ → σ → Prop) : Prop :=
  ∀ clocks before state, held clocks before state → terms.own before state ∧
    ∀ clocks state', terms.shown clocks → terms.others state state' → held clocks state' state'

end Activity

namespace Fetching

open Activity

variable {σ : Type} {terms : Terms σ} {held : Clocks → σ → σ → Prop} {clocks : Clocks} {before state : σ}

private theorem tryOnce_ensures (f : Fetching) (url : String) (attempt : Nat) (stable : Stable terms held)
    (holds : held clocks before state) :
    (f.tryOnce url attempt).Ensures terms (fun clocks before state _ => held clocks before state)
      clocks before state := by
  obtain ⟨rest, onward⟩ := stable clocks before state holds
  refine ⟨rest, fun turn clocks state' shown moved => ?_⟩
  have holds := onward clocks state' shown moved
  cases turn with
  | none => exact holds
  | some _ =>
    dsimp only
    split
    · exact holds
    · obtain ⟨rest, onward⟩ := stable clocks state' state' holds
      refine ⟨rest, fun outcome clocks state'' shown moved => ?_⟩
      cases outcome with
      | none => exact onward clocks state'' shown moved
      | some _ => exact onward clocks state'' shown moved

private theorem attempts_ensures (f : Fetching) (url : String) (attempt left : Nat)
    (stable : Stable terms held) (holds : held clocks before state) :
    (f.attempts url attempt left).Ensures terms (fun clocks before state _ => held clocks before state)
      clocks before state := by
  induction left generalizing attempt clocks before state with
  | zero =>
    rw [attempts, ensures_bind]
    exact f.tryOnce_ensures url attempt stable holds
  | succ left ih =>
    rw [attempts, ensures_bind]
    refine (f.tryOnce_ensures url attempt stable holds).mono fun clocks before state outcome holds => ?_
    split
    next failure =>
      split
      · obtain ⟨rest, onward⟩ := stable clocks before state holds
        refine ⟨rest, fun paused clocks state' shown moved => ?_⟩
        cases paused with
        | none => exact onward clocks state' shown moved
        | some _ => exact ih (attempt + 1) (onward clocks state' shown moved)
      · exact holds
    · exact holds

/-- Fetching leaves the state alone, so that whatever outlasts waits outlasts a fetch. -/
theorem fetch_ensures (f : Fetching) (url : String) (stable : Stable terms held)
    (holds : held clocks before state) :
    (f.fetch url).Ensures terms (fun clocks before state _ => held clocks before state)
      clocks before state :=
  f.attempts_ensures url 0 f.maxRetries stable holds

private theorem tryOnce_yields {shown : Clocks → Prop} (f : Fetching) (url : String) (attempt : Nat) :
    (f.tryOnce url attempt : Activity σ _).Yields shown fun _ => True := by
  rintro (none | turn)
  · trivial
  · dsimp only
    split
    · trivial
    · rintro (none | outcome)
      · trivial
      · trivial

/-- A fetch never crashes. -/
theorem fetch_yields {shown : Clocks → Prop} (f : Fetching) (url : String) :
    (f.fetch url : Activity σ _).Yields shown fun _ => True := by
  suffices attempts : ∀ left attempt,
      (f.attempts url attempt left : Activity σ _).Yields shown fun _ => True from attempts f.maxRetries 0
  intro left
  induction left with
  | zero =>
    intro attempt
    rw [Fetching.attempts, yields_bind]
    exact (f.tryOnce_yields url attempt).mono fun _ _ => trivial
  | succ left ih =>
    intro attempt
    rw [Fetching.attempts, yields_bind]
    refine (f.tryOnce_yields url attempt).mono fun outcome _ => ?_
    split
    · split
      · rintro clocks state - (none | paused)
        · trivial
        · exact ih (attempt + 1)
      · trivial
    · trivial

end Fetching

end Harvest.Web
