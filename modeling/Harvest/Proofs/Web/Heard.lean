import Harvest.Web.Fetch
import Mathlib.Tactic.Common

/-!
What an activity makes of what it hears. The replies it may get are given beforehand; whatever else happens,
its writes keep a condition on the state, and its result is of a kind. A fetch gives only documents that
stood in one of those replies to a request for its URL.
-/

namespace Harvest.Web

/-- A wait that ends with a reply ends with one of those that are heard. -/
def Wait.IsHeard (heard : Request → Reply → Prop) : (wait : Wait) → Option wait.Answer → Prop
  | reply request => fun answer => ∀ r, answer = some (Outcome.reply r) → heard request r
  | turn _ | pause _ => fun _ => True

namespace Activity

variable {σ α β : Type} {heard : Request → Reply → Prop} {kept : σ → Prop} {result : α → Prop}

/-- As long as the activity gets no replies but those that are heard, each of its writes keeps the
condition on the state, and its result is of the kind. -/
def DrawsOn (heard : Request → Reply → Prop) (kept : σ → Prop) (result : α → Prop) : Activity σ α → Prop
  | done a => result a
  | step write next => ∀ clocks state,
    (kept state → kept (write clocks state)) ∧ (next clocks state).DrawsOn heard kept result
  | await _ wait next => ∀ answer, wait.IsHeard heard answer → (next answer).DrawsOn heard kept result
  | crash => True

theorem drawsOn_bind {result : β → Prop} {activity : Activity σ α} {next : α → Activity σ β} :
    (activity.bind next).DrawsOn heard kept result ↔
      activity.DrawsOn heard kept fun a => (next a).DrawsOn heard kept result := by
  induction activity with
  | done a => exact Iff.rfl
  | step write go ih =>
    exact forall_congr' fun clocks => forall_congr' fun state => and_congr_right fun _ => ih clocks state
  | await deadline wait go ih => exact forall_congr' fun answer => imp_congr_right fun _ => ih answer
  | crash => exact Iff.rfl

theorem DrawsOn.mono {result' : α → Prop} {activity : Activity σ α}
    (draws : activity.DrawsOn heard kept result) (weaker : ∀ a, result a → result' a) :
    activity.DrawsOn heard kept result' := by
  induction activity with
  | done a => exact weaker a draws
  | step write go ih =>
    exact fun clocks state => ⟨(draws clocks state).1, ih clocks state (draws clocks state).2⟩
  | await deadline wait go ih => exact fun answer known => ih answer (draws answer known)
  | crash => trivial

theorem DrawsOn.settle {activity : Activity σ α} (draws : activity.DrawsOn heard kept result) {clocks : Clocks}
    {state : σ} (keeps : kept state) : kept (activity.settle clocks state).1 ∧
      (activity.settle clocks state).2.DrawsOn heard kept result := by
  induction activity generalizing state with
  | done a => exact ⟨keeps, draws⟩
  | step write go ih =>
    obtain ⟨kept, onward⟩ := draws clocks state
    exact ih clocks state onward (kept keeps)
  | await deadline wait go ih => exact ⟨keeps, draws⟩
  | crash => exact ⟨keeps, draws⟩

/-- The next turn of an activity that is answered with nothing unheard. -/
theorem DrawsOn.resume {activity : Activity σ α} (draws : activity.DrawsOn heard kept result) {clocks : Clocks}
    {state : σ} (keeps : kept state) {answer : (wait : Wait) → Option wait.Answer}
    (known : ∀ deadline wait next, activity = .await deadline wait next → wait.IsHeard heard (answer wait)) :
    kept (activity.resume clocks state answer).1 ∧
      (activity.resume clocks state answer).2.DrawsOn heard kept result := by
  cases activity with
  | await deadline wait next => exact DrawsOn.settle (draws _ (known deadline wait next rfl)) keeps
  | done | step | crash => exact ⟨keeps, draws⟩

end Activity

namespace Fetching

open Activity

variable {σ : Type} {heard : Request → Reply → Prop} {kept : σ → Prop}

/-- A document that stood in a reply to a request for a URL. -/
def Brings (f : Fetching) (heard : Request → Reply → Prop) (url : String) (document : Fetched) : Prop :=
  ∃ request reply, Request.make url f.userAgent f.timeout = .ok request ∧ heard request reply ∧
    reply.isSuccess = true ∧ document.body = reply.body

private theorem verdict_ok {outcome : Outcome} {url : String} {attempt : Nat} {document : Fetched}
    (success : outcome.verdict url attempt = .ok document) :
    ∃ reply, outcome = .reply reply ∧ reply.isSuccess = true ∧ document.body = reply.body := by
  cases outcome with
  | reply reply =>
    rw [Outcome.verdict] at success
    split at success
    next isSuccess =>
      cases success
      exact ⟨reply, rfl, isSuccess, rfl⟩
    · cases success
  | timeout | network | refused => cases success

private theorem tryOnce_drawsOn (f : Fetching) (url : String) (attempt : Nat) :
    (f.tryOnce url attempt : Activity σ _).DrawsOn heard kept fun outcome =>
      ∀ document, outcome = some (.ok document) → f.Brings heard url document := by
  rintro (_ | turn) -
  · exact nofun
  · dsimp only
    split
    · exact nofun
    next request made =>
      rintro (_ | outcome) known
      · exact nofun
      · intro document success
        obtain ⟨reply, rfl, isSuccess, body⟩ := verdict_ok (Option.some.inj success)
        exact ⟨request, reply, made, known reply rfl, isSuccess, body⟩

/-- A fetch gives only what stood in a reply that was heard, and writes nothing. -/
theorem fetch_drawsOn (f : Fetching) (url : String) : (f.fetch url : Activity σ _).DrawsOn heard kept
    fun fetched => ∀ document, fetched = some (.ok document) → f.Brings heard url document := by
  have lastly {outcome : Option (Except Failure Fetched)}
      (brings : ∀ document, outcome = some (.ok document) → f.Brings heard url document) :
      ∀ document, lastly outcome = some (.ok document) → f.Brings heard url document := by
    intro document success
    match outcome with
    | some (.ok found) =>
      cases success
      exact brings _ rfl
  suffices attempts : ∀ left attempt, (f.attempts url attempt left : Activity σ _).DrawsOn heard kept
      fun fetched => ∀ document, fetched = some (.ok document) → f.Brings heard url document from
    attempts f.maxRetries 0
  intro left
  induction left with
  | zero =>
    intro attempt
    rw [Fetching.attempts, drawsOn_bind]
    exact (f.tryOnce_drawsOn url attempt).mono fun outcome brings => lastly brings
  | succ left ih =>
    intro attempt
    rw [Fetching.attempts, drawsOn_bind]
    refine (f.tryOnce_drawsOn url attempt).mono fun outcome brings => ?_
    split
    · split
      · refine fun clocks state => ⟨id, ?_⟩
        rintro (_ | paused) -
        · exact nofun
        · exact ih (attempt + 1)
      · exact nofun
    · exact lastly brings

end Fetching

end Harvest.Web
