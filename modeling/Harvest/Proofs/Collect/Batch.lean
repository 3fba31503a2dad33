import Harvest.Collect.Batch
import Harvest.Proofs.Web.Activity
import Mathlib.Data.List.Induction

/-!
Runs of a batch side by side. If every run keeps its terms among such others as keep theirs, then
every course of events does: what one run does in its turns is what the others count on during their
waits. When a run started and when it ended can be read off the course of events.
-/

namespace Harvest.Collect

namespace Batch

open Web (Activity Terms Wait)

/-! ### When things happen -/

/-- The clocks of the first event after which something holds. -/
def firstWhen (b : Batch) (holds : Batch → Bool) : List (Clocks × Event) → Option Clocks
  | [] => none
  | (clocks, event) :: rest =>
    if holds (b.after clocks event) then some clocks else (b.after clocks event).firstWhen holds rest

/-- Whether the run of a job, by its index, has started. -/
def hasStarted (index : Nat) (b : Batch) : Bool := index < b.started.length

def hasEnded (index : Nat) (b : Batch) : Bool := b.started[index]?.any isDone

theorem afterAll_concat (b : Batch) (past : List (Clocks × Event)) (clocks : Clocks) (event : Event) :
    b.afterAll (past ++ [(clocks, event)]) = (b.afterAll past).after clocks event := by
  simp [afterAll]

theorem firstWhen_concat (b : Batch) (holds : Batch → Bool) (past : List (Clocks × Event))
    (clocks : Clocks) (event : Event) : b.firstWhen holds (past ++ [(clocks, event)]) = (b.firstWhen holds past).or
      (if holds ((b.afterAll past).after clocks event) then some clocks else none) := by
  induction past generalizing b with
  | nil =>
    simp only [List.nil_append, firstWhen, afterAll, List.foldl_nil, Option.none_or]
    rfl
  | cons first rest ih =>
    obtain ⟨clocks', event'⟩ := first
    simp only [List.cons_append, firstWhen]
    split
    · rfl
    · exact ih _

/-! ### Runs in company -/

/-- What is shown of the run of a job that began with some clocks at some state of the store: what
holds while it waits, and what holds of its last turn and its report. -/
structure Promise where
  rests : Job → Clocks → Store → Store → Prop
  result : Job → Clocks → Store → Clocks → Store → Store → Report → Prop

/-- Jobs that can be done side by side from a state of the store on: each keeps its terms and its
promise as long as others leave it what it counts on, and what one does in a turn the others, and an
observer, allow. -/
structure Company (initial : Store) (jobs : List Job) (terms : Job → Terms Store)
    (observer : Store → Store → Prop) (promise : Promise) : Prop where
  still : ∀ job ∈ jobs, ∀ store, (terms job).others store store
  trans : ∀ job ∈ jobs, ∀ a b c, (terms job).others a b → (terms job).others b c → (terms job).others a c
  apart : jobs.Pairwise fun job other => ∀ a b,
    ((terms job).own a b → (terms other).others a b) ∧ ((terms other).own a b → (terms job).others a b)
  seen : ∀ job ∈ jobs, ∀ a b, (terms job).own a b → observer a b
  observer_still : ∀ store, observer store store
  observer_trans : ∀ a b c, observer a b → observer b c → observer a c
  runs : ∀ job ∈ jobs, ∀ clocks store, (terms job).shown clocks → (terms job).others initial store →
    job.run.Ensures ((terms job).resting (promise.rests job clocks store))
      (fun turn before state report => (terms job).own before state ∧
        promise.result job clocks store turn before state report) clocks store store

/-- How a run stands that began with some clocks and had its last turn with others: it is at a wait or
at its end, and keeps its terms in the present store. -/
def Standing (terms : Job → Terms Store) (promise : Promise) (initial present : Store) (job : Job)
    (begun latest : Clocks) (run : Activity Store Report) : Prop :=
  ∃ start before state, (terms job).others initial start ∧ (terms job).others state present ∧
    run.isSettled = true ∧ run.Ensures ((terms job).resting (promise.rests job begun start))
      (fun turn before state report => (terms job).own before state ∧
        promise.result job begun start turn before state report) latest before state

/-- What is true of a batch after a course of events. -/
structure Keeping (terms : Job → Terms Store) (observer : Store → Store → Prop) (promise : Promise)
    (initial : Store) (jobs : List Job) (width : Nat) (past : List (Clocks × Event)) (b : Batch) :
    Prop where
  waiting : b.waiting = jobs.drop b.started.length
  observed : observer initial b.store
  ahead : ∀ index job, b.started.length ≤ index → jobs[index]? = some job →
    (terms job).others initial b.store
  notStarted : ∀ index, b.started.length ≤ index →
    (new initial width jobs).firstWhen (hasStarted index) past = none ∧
    (new initial width jobs).firstWhen (hasEnded index) past = none
  started : ∀ index run, b.started[index]? = some run → ∃ job begun latest, jobs[index]? = some job ∧
    (new initial width jobs).firstWhen (hasStarted index) past = some begun ∧
    (new initial width jobs).firstWhen (hasEnded index) past =
      (if isDone run then some latest else none) ∧
    Standing terms promise initial b.store job begun latest run

variable {terms : Job → Terms Store} {observer : Store → Store → Prop} {promise : Promise}
  {initial : Store}
  {jobs : List Job} {width : Nat} {past : List (Clocks × Event)} {b : Batch}

private theorem Company.other (company : Company initial jobs terms observer promise) {i j : Nat}
    {job other : Job} (here : jobs[i]? = some job) (there : jobs[j]? = some other)
    (differ : i ≠ j) {a b : Store} (own : (terms job).own a b) : (terms other).others a b := by
  obtain ⟨inside, rfl⟩ := List.getElem?_eq_some_iff.mp here
  obtain ⟨inside', rfl⟩ := List.getElem?_eq_some_iff.mp there
  rcases Nat.lt_or_gt_of_ne differ with before | behind
  · exact ((List.pairwise_iff_getElem.mp company.apart i j inside inside' before) a b).1 own
  · exact ((List.pairwise_iff_getElem.mp company.apart j i inside' inside behind) a b).2 own

/-- A turn that ends at a wait, at the end of the run or in a crash has kept to the terms. -/
private theorem own_of_settled {terms : Terms Store} {rests : Store → Prop}
    {result : Clocks → Store → Store → Report → Prop} {run : Activity Store Report} {clocks : Clocks}
    {before state : Store} (settled : run.isSettled = true)
    (ensures : run.Ensures (terms.resting rests) (fun turn before state report => terms.own before state ∧
      result turn before state report) clocks before state) : terms.own before state := by
  cases run with
  | done report => exact ensures.1
  | step write next => cases settled
  | await deadline wait next => exact ensures.1.1
  | crash => exact ensures.1

/-- The index of the job whose run has its turn at an event. -/
def turn (b : Batch) : Event → Nat
  | .start => b.started.length
  | .resume index _ => index

/-- What an event can do: nothing, start the next run, or let a run go on from its wait. -/
theorem after_cases (b : Batch) (clocks : Clocks) (event : Event) :
    b.after clocks event = b ∨
    (∃ job rest, b.turn event = b.started.length ∧ b.waiting = job :: rest ∧ b.mayStart = true ∧
      b.after clocks event =
        { b with
          store := (job.run.settle clocks b.store).1
          started := b.started ++ [(job.run.settle clocks b.store).2], waiting := rest }) ∨
    ∃ deadline wait next answer, b.started[b.turn event]? = some (.await deadline wait next) ∧
      b.after clocks event =
        { b with
          store := ((next answer).settle clocks b.store).1
          started := b.started.set (b.turn event) ((next answer).settle clocks b.store).2 } := by
  cases event with
  | start =>
    simp only [after]
    split
    · exact Or.inl rfl
    next job rest waiting =>
      split
      next may => exact Or.inr (Or.inl ⟨job, rest, rfl, waiting, may, rfl⟩)
      · exact Or.inl rfl
  | resume index answer =>
    simp only [after]
    split
    · exact Or.inl rfl
    next run present =>
      have unchanged : b.started.set index run = b.started := by
        obtain ⟨inside, rfl⟩ := List.getElem?_eq_some_iff.mp present
        exact List.set_getElem_self inside
      cases run with
      | await deadline wait next =>
        exact Or.inr (Or.inr ⟨deadline, wait, next, answer wait, present, rfl⟩)
      | done report => exact Or.inl (by simp only [Activity.resume, unchanged])
      | step write next => exact Or.inl (by simp only [Activity.resume, unchanged])
      | crash => exact Or.inl (by simp only [Activity.resume, unchanged])

private theorem hasEnded_of {index : Nat} {run : Activity Store Report}
    (present : b.started[index]? = some run) :
    hasEnded index b = isDone run := by
  simp [hasEnded, present]

private theorem not_hasStarted {index : Nat} (beyond : b.started.length ≤ index) :
    hasStarted index b = false ∧ hasEnded index b = false := by
  simp [hasStarted, hasEnded, Nat.not_lt.mpr beyond]

/-- A run that an event leaves alone stands as it stood, if others may do to the store what happened. -/
private theorem Keeping.untouched {later : Batch} {clocks : Clocks} {event : Event}
    (company : Company initial jobs terms observer promise)
    (keeping : Keeping terms observer promise initial jobs width past b)
    (is : b = (new initial width jobs).afterAll past) (after : b.after clocks event = later)
    {index : Nat} {run : Activity Store Report} (present : b.started[index]? = some run)
    (same : later.started[index]? = some run)
    (moved : ∀ job, jobs[index]? = some job → (terms job).others b.store later.store) :
    ∃ job begun latest, jobs[index]? = some job ∧
      (new initial width jobs).firstWhen (hasStarted index) (past ++ [(clocks, event)]) = some begun ∧
      (new initial width jobs).firstWhen (hasEnded index) (past ++ [(clocks, event)]) =
        (if isDone run then some latest else none) ∧
      Standing terms promise initial later.store job begun latest run := by
  obtain ⟨job, begun, latest, here, began, ended, start, before, state, first, last, settled, ensures⟩ :=
    keeping.started index run present
  refine ⟨job, begun, latest, here, ?_, ?_, start, before, state, first, ?_, settled, ensures⟩
  · rw [firstWhen_concat, began]
    rfl
  · rw [firstWhen_concat, ended, ← is, after, hasEnded_of same]
    cases isDone run with
    | true => rfl
    | false => rfl
  · exact company.trans job (List.mem_of_getElem? here) _ _ _ last (moved job here)

private theorem Keeping.beyond {later : Batch} {clocks : Clocks} {event : Event}
    (keeping : Keeping terms observer promise initial jobs width past b)
    (is : b = (new initial width jobs).afterAll past) (after : b.after clocks event = later)
    (grown : b.started.length ≤ later.started.length) {index : Nat}
    (beyond : later.started.length ≤ index) :
    (new initial width jobs).firstWhen (hasStarted index) (past ++ [(clocks, event)]) = none ∧
      (new initial width jobs).firstWhen (hasEnded index) (past ++ [(clocks, event)]) = none := by
  obtain ⟨began, ended⟩ := keeping.notStarted index (Nat.le_trans grown beyond)
  obtain ⟨noStart, noEnd⟩ := not_hasStarted beyond
  rw [firstWhen_concat, firstWhen_concat, began, ended, ← is, after, noStart, noEnd]
  exact ⟨rfl, rfl⟩

/-- The first turn of the next run keeps to its terms. -/
private theorem Keeping.first_turn (company : Company initial jobs terms observer promise)
    (keeping : Keeping terms observer promise initial jobs width past b) {clocks : Clocks}
    (shown : ∀ job ∈ jobs, (terms job).shown clocks) {job : Job} {rest : List Job}
    (waiting : b.waiting = job :: rest) : jobs[b.started.length]? = some job ∧
      (terms job).others initial b.store ∧
      (terms job).own b.store (job.run.settle clocks b.store).1 ∧
      (job.run.settle clocks b.store).2.Ensures ((terms job).resting (promise.rests job clocks b.store))
        (fun turn before state report => (terms job).own before state ∧
          promise.result job clocks b.store turn before state report) clocks b.store
        (job.run.settle clocks b.store).1 := by
  have here : jobs[b.started.length]? = some job := by
    have := congrArg (·[0]?) (keeping.waiting.symm.trans waiting)
    simpa using this
  have member := List.mem_of_getElem? here
  have first := keeping.ahead _ job (Nat.le_refl _) here
  have ensures := (company.runs job member clocks b.store (shown job member) first).settle
  exact ⟨here, first, own_of_settled Activity.settle_isSettled ensures, ensures⟩

/-- A turn after a wait keeps to the terms of the run. -/
private theorem Keeping.next_turn (keeping : Keeping terms observer promise initial jobs width past b)
    {clocks : Clocks} (shown : ∀ job ∈ jobs, (terms job).shown clocks) {turn : Nat}
    {deadline : Option Nat} {wait : Wait} {next : Option wait.Answer → Activity Store Report}
    (present : b.started[turn]? = some (.await deadline wait next)) (answer : Option wait.Answer) :
    ∃ job begun start, jobs[turn]? = some job ∧
      (new initial width jobs).firstWhen (hasStarted turn) past = some begun ∧
      (new initial width jobs).firstWhen (hasEnded turn) past = none ∧
      (terms job).others initial start ∧
      (terms job).own b.store ((next answer).settle clocks b.store).1 ∧
      ((next answer).settle clocks b.store).2.Ensures
        ((terms job).resting (promise.rests job begun start))
        (fun turn before state report => (terms job).own before state ∧
          promise.result job begun start turn before state report) clocks b.store
        ((next answer).settle clocks b.store).1 := by
  obtain ⟨job, begun, latest, here, began, ended, start, before, state, first, last, settled, ensures⟩ :=
    keeping.started turn _ present
  have member := List.mem_of_getElem? here
  have ensures := (ensures.2 answer clocks b.store (shown job member) last).settle
  exact ⟨job, begun, start, here, began, ended, first, own_of_settled Activity.settle_isSettled ensures,
    ensures⟩

/-- The start of the next run. Its first turn is one that all others allow, and it stands by its terms from
then on. -/
private theorem Keeping.start (company : Company initial jobs terms observer promise)
    (keeping : Keeping terms observer promise initial jobs width past b)
    (is : b = (new initial width jobs).afterAll past) {clocks : Clocks} {event : Event}
    (shown : ∀ job ∈ jobs, (terms job).shown clocks) {job : Job} {rest : List Job}
    (waiting : b.waiting = job :: rest) (after : b.after clocks event =
      { b with
        store := (job.run.settle clocks b.store).1
        started := b.started ++ [(job.run.settle clocks b.store).2], waiting := rest }) :
    Keeping terms observer promise initial jobs width (past ++ [(clocks, event)])
      (b.after clocks event) := by
  obtain ⟨here, first, own, ensures⟩ := keeping.first_turn company shown waiting
  have left : rest = jobs.drop (b.started.length + 1) := by
    have := congrArg List.tail (keeping.waiting.symm.trans waiting)
    simpa using this.symm
  have member := List.mem_of_getElem? here
  have settled : (job.run.settle clocks b.store).2.isSettled = true := Activity.settle_isSettled
  rw [after]
  refine ⟨?_, ?_, fun index other beyond there => ?_, fun index beyond => ?_, fun index run present => ?_⟩
  · simpa using left
  · exact company.observer_trans _ _ _ keeping.observed (company.seen job member _ _ own)
  · simp only [List.length_append, List.length_singleton] at beyond
    exact company.trans other (List.mem_of_getElem? there) _ _ _
      (keeping.ahead index other (by omega) there)
      (company.other here there (by omega) own)
  · exact keeping.beyond is after (by simp) beyond
  · -- Runs before the new one are left alone, and there is none behind it.
    rcases Nat.lt_trichotomy index b.started.length with old | new | beyond
    · have same : b.started[index]? = some run := by
        rwa [List.getElem?_append_left old] at present
      refine keeping.untouched company is after same present fun other there => ?_
      exact company.other here there (by omega) own
    · subst new
      rw [List.getElem?_concat_length, Option.some.injEq] at present
      subst present
      obtain ⟨began, ended⟩ := keeping.notStarted _ (Nat.le_refl b.started.length)
      refine ⟨job, clocks, clocks, here, ?_, ?_, b.store, b.store, _, first,
        company.still job member _, settled, ensures⟩
      · rw [firstWhen_concat, began, ← is, after]
        simp [hasStarted]
      · rw [firstWhen_concat, ended, ← is, after, hasEnded_of List.getElem?_concat_length]
        rfl
    · rw [List.getElem?_eq_none (by simp; omega)] at present
      cases present

private theorem Keeping.resume (company : Company initial jobs terms observer promise)
    (keeping : Keeping terms observer promise initial jobs width past b)
    (is : b = (new initial width jobs).afterAll past) {clocks : Clocks} {event : Event}
    (shown : ∀ job ∈ jobs, (terms job).shown clocks) {turn : Nat}
    {deadline : Option Nat} {wait : Wait} {next : Option wait.Answer → Activity Store Report}
    {answer : Option wait.Answer} (present : b.started[turn]? = some (.await deadline wait next))
    (after : b.after clocks event =
      { b with
        store := ((next answer).settle clocks b.store).1
        started := b.started.set turn ((next answer).settle clocks b.store).2 }) :
    Keeping terms observer promise initial jobs width (past ++ [(clocks, event)])
      (b.after clocks event) := by
  obtain ⟨job, begun, start, here, began, ended, first, own, ensures⟩ :=
    keeping.next_turn shown present answer
  have member := List.mem_of_getElem? here
  have settled : ((next answer).settle clocks b.store).2.isSettled = true := Activity.settle_isSettled
  obtain ⟨inside, -⟩ := List.getElem?_eq_some_iff.mp present
  rw [after]
  refine ⟨?_, ?_, fun index other beyond there => ?_, fun index beyond => ?_,
    fun index run present' => ?_⟩
  · simpa using keeping.waiting
  · exact company.observer_trans _ _ _ keeping.observed (company.seen job member _ _ own)
  · simp only [List.length_set] at beyond
    exact company.trans other (List.mem_of_getElem? there) _ _ _ (keeping.ahead index other beyond there)
      (company.other here there (by omega) own)
  · exact keeping.beyond is after (by simp) beyond
  · by_cases touched : turn = index
    · subst touched
      rw [List.getElem?_set_self inside, Option.some.injEq] at present'
      subst present'
      refine ⟨job, begun, clocks, here, ?_, ?_, start, b.store, _, first,
        company.still job member _, settled, ensures⟩
      · rw [firstWhen_concat, began]
        rfl
      · rw [firstWhen_concat, ended, ← is, after, hasEnded_of (List.getElem?_set_self inside)]
        rfl
    · have same : b.started[index]? = some run := by
        rwa [List.getElem?_set_ne touched] at present'
      refine keeping.untouched company is after same present' fun other there => ?_
      exact company.other here there touched own

theorem Keeping.after (company : Company initial jobs terms observer promise)
    (keeping : Keeping terms observer promise initial jobs width past b)
    (is : b = (new initial width jobs).afterAll past) (clocks : Clocks) (event : Event)
    (shown : ∀ job ∈ jobs, (terms job).shown clocks) :
    Keeping terms observer promise initial jobs width (past ++ [(clocks, event)])
      (b.after clocks event) := by
  rcases b.after_cases clocks event with same | ⟨job, rest, -, waiting, -, after⟩ |
    ⟨deadline, wait, next, answer, present, after⟩
  · rw [same]
    refine ⟨keeping.waiting, keeping.observed, keeping.ahead, fun index beyond => ?_,
      fun index run present => ?_⟩
    · exact keeping.beyond is same (Nat.le_refl _) beyond
    · exact keeping.untouched company is same present present
        fun job here => company.still job (List.mem_of_getElem? here) _
  · exact keeping.start company is shown waiting after
  · exact keeping.resume company is shown present after

/-- An event is a turn of one run, which keeps to the terms of that run. -/
theorem Keeping.turn_own (company : Company initial jobs terms observer promise)
    (keeping : Keeping terms observer promise initial jobs width past b) (clocks : Clocks) (event : Event)
    (shown : ∀ job ∈ jobs, (terms job).shown clocks) : b.after clocks event = b ∨
      ∃ job, jobs[b.turn event]? = some job ∧ (terms job).own b.store (b.after clocks event).store := by
  rcases b.after_cases clocks event with same | ⟨job, rest, turn, waiting, -, after⟩ |
    ⟨deadline, wait, next, answer, present, after⟩
  · exact Or.inl same
  · obtain ⟨here, -, own, -⟩ := keeping.first_turn company shown waiting
    rw [turn, after]
    exact Or.inr ⟨job, here, own⟩
  · obtain ⟨job, -, -, here, -, -, -, own, -⟩ := keeping.next_turn shown present answer
    rw [after]
    exact Or.inr ⟨job, here, own⟩

/-- A company of runs keeps its terms through every course of events. -/
theorem Company.keeping (company : Company initial jobs terms observer promise) (width : Nat)
    (events : List (Clocks × Event)) (shown : ∀ e ∈ events, ∀ job ∈ jobs, (terms job).shown e.1) :
    Keeping terms observer promise initial jobs width events
      ((new initial width jobs).afterAll events) := by
  induction events using List.reverseRecOn with
  | nil =>
    refine ⟨rfl, company.observer_still _, ?_, fun index _ => ⟨rfl, rfl⟩, fun index run present => ?_⟩
    · exact fun index job _ here => company.still job (List.mem_of_getElem? here) _
    · simp [afterAll, new] at present
  | append_singleton past e ih =>
    have earlier := ih fun e member => shown e (List.mem_append_left _ member)
    rw [afterAll_concat]
    exact earlier.after company rfl e.1 e.2
      (shown e (List.mem_append_right _ (List.mem_singleton_self e)))

end Batch

/-! ### Batches one after the other -/

/-- A batch and what happened to it. Its runs need not have come to an end. -/
structure Course where
  jobs : List Job
  width : Nat
  events : List (Clocks × Batch.Event)

namespace Course

def batch (course : Course) (store : Store) : Batch :=
  (Batch.new store course.width course.jobs).afterAll course.events

def storeAfter (store : Store) (courses : List Course) : Store :=
  courses.foldl (fun store course => (course.batch store).store) store

end Course

/-! ### A plain job -/

/-- A feed of which no more is said than its address, and some keys that are passed through. -/
def plainFeed (url : String) (extra : List (String × Json)) : Config.FeedConfig :=
  { name := "Wire", url, credibility := 1, categories := [], intervalMinutes := none, maxItems := none
    language := none, tier := none, reportingType := none, enabled := true, extra }

def plainJob (url : String) (extra : List (String × Json)) : Job :=
  ⟨⟨1, .standard, .standard, [plainFeed url extra]⟩, plainFeed url extra, 0⟩

end Harvest.Collect
