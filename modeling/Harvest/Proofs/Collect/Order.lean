import Harvest.Collect.Collector
import Harvest.Proofs.Collect.Completion
import Harvest.Proofs.Collect.Confinement
import Harvest.Proofs.Collect.Separation
import Harvest.Proofs.Config.Validation
import Mathlib.Data.List.Forall2

/-!
The order of a batch. Runs may end in any order; their reports are handed out in the order of the
jobs, no more runs are in progress than allowed, and whatever has happened so far, the batch can still
come to its end.
-/

namespace Harvest.Collect

open Web (Activity Wait)

namespace Batch

/-- How many runs were started and have not ended. -/
def inProgress (b : Batch) : Nat := b.started.countP fun run => !isDone run

variable {jobs : List Job} {b : Batch} {shown : Clocks → Prop}

/-- The run of a job, at a wait or at its end: it will come to a report under the name of its feed. -/
def Promises (shown : Clocks → Prop) (run : Activity Store Report) (job : Job) : Prop :=
  run.isSettled = true ∧ run.Yields shown fun report => report.result.feed = job.feed.name

/-- What is true of a batch at any time: started runs are those of the first jobs, in order, and not
too many of them are beyond those handed out. -/
structure Orderly (shown : Clocks → Prop) (jobs : List Job) (b : Batch) : Prop where
  front : ∃ front, jobs = front ++ b.waiting ∧ List.Forall₂ (Promises shown) b.started front
  few : b.started.length ≤ b.handedOut + max b.width 1

/-! ### The runs handed out -/

theorem takeWhile_append_le (runs : List (Activity Store Report)) (run : Activity Store Report) :
    (runs.takeWhile isDone).length ≤ ((runs ++ [run]).takeWhile isDone).length := by
  rw [List.takeWhile_append]
  split
  · simp_all
  · exact Nat.le_refl _

/-- A run that was not at its end is not among those handed out, wherever it goes on to. -/
theorem takeWhile_set_le {runs : List (Activity Store Report)} {index : Nat}
    {run : Activity Store Report} (present : runs[index]? = some run) (going : isDone run = false)
    (next : Activity Store Report) :
    (runs.takeWhile isDone).length ≤ ((runs.set index next).takeWhile isDone).length := by
  induction runs generalizing index with
  | nil => exact Nat.le_refl _
  | cons first rest ih =>
    cases index with
    | zero =>
      cases present
      simp [going]
    | succ index =>
      have tail := ih present
      simp only [List.set_cons_succ, List.takeWhile_cons]
      split
      · exact Nat.succ_le_succ tail
      · exact Nat.le_refl _

theorem inProgress_le (b : Batch) : b.inProgress ≤ b.started.length - b.handedOut := by
  have none : (b.started.takeWhile isDone).countP (fun run => !isDone run) = 0 := by
    rw [List.countP_eq_zero]
    intro run member
    simp [List.all_eq_true.mp List.all_takeWhile run member]
  have rest := List.countP_le_length (p := fun run => !isDone run) (l := b.started.dropWhile isDone)
  have split := List.takeWhile_append_dropWhile (p := isDone) (l := b.started)
  have count := congrArg (List.countP fun run => !isDone run) split
  have length := congrArg List.length split
  rw [List.countP_append, none] at count
  rw [List.length_append] at length
  unfold inProgress handedOut
  omega

theorem afterAll_width (b : Batch) (events : List (Clocks × Event)) :
    (b.afterAll events).width = b.width := by
  induction events generalizing b with
  | nil => rfl
  | cons e rest ih =>
    refine (ih (b.after e.1 e.2)).trans ?_
    rcases b.after_cases e.1 e.2 with same | ⟨_, _, _, _, _, same⟩ | ⟨_, _, _, _, _, same⟩
    · rw [same]
    · rw [same]
    · rw [same]

private theorem forall₂_set {α β : Type} {R : α → β → Prop} {xs : List α} {ys : List β}
    (related : List.Forall₂ R xs ys) {index : Nat} {x x' : α} (present : xs[index]? = some x)
    (moved : ∀ y, R x y → R x' y) : List.Forall₂ R (xs.set index x') ys := by
  induction related generalizing index with
  | nil => cases present
  | cons first rest ih =>
    cases index with
    | zero =>
      cases present
      exact .cons (moved _ first) rest
    | succ index => exact .cons first (ih present)

/-- The reports of leading finished runs go by the names of the first feeds, in order. -/
private theorem reports_named {runs : List (Activity Store Report)} {front : List Job}
    (promised : List.Forall₂ (Promises shown) runs front) :
    let names := ((runs.takeWhile isDone).filterMap fun
      | .done report => some report
      | _ => none).map (·.result.feed)
    names <+: front.map (·.feed.name) ∧ (runs.all isDone = true → names = front.map (·.feed.name)) := by
  induction promised with
  | nil => exact ⟨List.prefix_rfl, fun _ => rfl⟩
  | @cons run job rest others promise promised ih =>
    obtain ⟨inFront, whole⟩ := ih
    cases run with
    | done report =>
      have named : report.result.feed = job.feed.name := promise.2
      simp only [List.takeWhile_cons, isDone, if_true, List.filterMap_cons, List.map_cons, named,
        List.prefix_cons_inj, List.all_cons, Bool.true_and, List.cons.injEq, true_and]
      exact ⟨inFront, whole⟩
    | step | await | crash =>
      refine ⟨List.nil_prefix, fun all => ?_⟩
      cases all

namespace Orderly

theorem new (shown : Clocks → Prop) (store : Store) (width : Nat) (jobs : List Job) :
    Orderly shown jobs (Batch.new store width jobs) :=
  ⟨⟨[], rfl, .nil⟩, Nat.zero_le _⟩

theorem after (orderly : Orderly shown jobs b) {clocks : Clocks} (reads : shown clocks)
    (yields : ∀ job ∈ jobs, job.run.Yields shown fun report => report.result.feed = job.feed.name)
    (event : Event) : Orderly shown jobs (b.after clocks event) := by
  obtain ⟨⟨front, all, runs⟩, few⟩ := orderly
  rcases b.after_cases clocks event with same | ⟨job, rest, -, waiting, may, after⟩ |
    ⟨deadline, wait, next, answer, present, after⟩
  · rw [same]
    exact ⟨⟨front, all, runs⟩, few⟩
  · rw [waiting] at all
    have yields := yields job (all ▸ List.mem_append_right _ List.mem_cons_self)
    rw [after]
    refine ⟨⟨front ++ [job], ?_, ?_⟩, ?_⟩
    · simpa using all
    · refine List.rel_append runs (.cons ⟨Activity.settle_isSettled, yields.settle reads⟩ .nil)
    · have more := takeWhile_append_le b.started (job.run.settle clocks b.store).2
      have room := of_decide_eq_true may
      unfold handedOut at room ⊢
      simp only [List.length_append, List.length_singleton]
      omega
  · rw [after]
    refine ⟨⟨front, all, ?_⟩, ?_⟩
    · refine forall₂_set runs present fun job promises => ?_
      exact ⟨Activity.settle_isSettled, Activity.Yields.settle (promises.2 answer) reads⟩
    · have more := takeWhile_set_le present rfl ((next answer).settle clocks b.store).2
      unfold handedOut at few ⊢
      simp only [List.length_set]
      omega

theorem afterAll (orderly : Orderly shown jobs b) (events : List (Clocks × Event))
    (reads : ∀ e ∈ events, shown e.1)
    (yields : ∀ job ∈ jobs, job.run.Yields shown fun report => report.result.feed = job.feed.name) :
    Orderly shown jobs (b.afterAll events) := by
  induction events generalizing b with
  | nil => exact orderly
  | cons e rest ih =>
    exact ih (orderly.after (reads e List.mem_cons_self) yields e.2)
      fun e member => reads e (List.mem_cons_of_mem _ member)

theorem promises (orderly : Orderly shown jobs b) {run : Activity Store Report}
    (member : run ∈ b.started) : ∃ job, Promises shown run job := by
  obtain ⟨front, -, runs⟩ := orderly.front
  obtain ⟨index, inside, rfl⟩ := List.mem_iff_getElem.mp member
  exact ⟨_, (List.forall₂_iff_get.mp runs).2 index inside (runs.length_eq ▸ inside)⟩

theorem isCrashed (orderly : Orderly shown jobs b) : b.isCrashed = false := by
  unfold Batch.isCrashed
  rw [List.any_eq_false]
  intro run member
  obtain ⟨job, -, yields⟩ := orderly.promises member
  cases run with
  | crash => exact yields.elim
  | done | step | await => exact Bool.false_ne_true

theorem reports (orderly : Orderly shown jobs b) :
    (b.reports.map (·.result.feed) <+: jobs.map (·.feed.name)) ∧
      (b.isOver = true → b.reports.map (·.result.feed) = jobs.map (·.feed.name)) := by
  obtain ⟨⟨front, all, runs⟩, -⟩ := orderly
  obtain ⟨inFront, whole⟩ := reports_named runs
  refine ⟨inFront.trans ?_, fun finished => ?_⟩
  · rw [all, List.map_append]
    exact List.prefix_append _ _
  · obtain ⟨noneLeft, ended⟩ := Bool.and_eq_true_iff.mp finished
    rw [all, List.isEmpty_iff.mp noneLeft, List.append_nil]
    exact whole ended

end Orderly

/-! ### Performing a batch -/

/-- To perform a run to its end is a course of events. -/
theorem perform_course {site later : Site} {run : Activity Store Report} {report : Report} {index : Nat}
    (performed : site.perform run = (later, some report))
    (store : b.store = (run.settle site.session.clocks site.store).1)
    (present : b.started[index]? = some (run.settle site.session.clocks site.store).2) :
    ∃ events : List (Clocks × Event), (∀ e ∈ events, e.1.now = site.session.clocks.now) ∧
      b.afterAll events = { b with store := later.store, started := b.started.set index (.done report) } := by
  induction run generalizing site b with
  | done a =>
    cases performed
    refine ⟨[], fun _ => nofun, ?_⟩
    obtain ⟨inside, same⟩ := List.getElem?_eq_some_iff.mp present
    have same : b.started[index] = .done report := same
    have store : b.store = site.store := store
    rw [← same, List.set_getElem_self, ← store]
    rfl
  | step write next ih =>
    have onward : (⟨site.session, write site.session.clocks site.store⟩ : Site).perform
        (next site.session.clocks site.store) = (later, some report) := performed
    have course := ih site.session.clocks site.store onward store present
    exact course
  | await deadline wait next ih =>
    have store : b.store = site.store := store
    have now := site.session.answer_now deadline wait
    generalize waited : site.session.answer deadline wait = ended at now
    obtain ⟨session, answer⟩ := ended
    have event : b.after session.clocks (.resume index (wait.ending answer)) =
        { b with
          store := ((next answer).settle session.clocks site.store).1
          started := b.started.set index ((next answer).settle session.clocks site.store).2 } := by
      have present : b.started[index]? = some (.await deadline wait next) := present
      simp only [Batch.after, present, Activity.resume, Wait.ending_self, store]
    have onward : (⟨session, site.store⟩ : Site).perform (next answer) = (later, some report) := by
      rw [← performed]
      unfold Site.perform
      rw [Web.Session.perform, waited]
    obtain ⟨inside, -⟩ := List.getElem?_eq_some_iff.mp present
    have waits : (b.after session.clocks (.resume index (wait.ending answer))).started[index]? =
        some ((next answer).settle session.clocks site.store).2 := by
      rw [event]
      exact List.getElem?_set_self inside
    obtain ⟨events, still, course⟩ := ih answer onward (congrArg Batch.store event) waits
    refine ⟨(session.clocks, .resume index (wait.ending answer)) :: events, ?_, ?_⟩
    · intro e member
      rcases List.mem_cons.mp member with rfl | later
      · exact now
      · exact (still e later).trans now
    · rw [event] at course
      change Batch.afterAll (b.after session.clocks _) events = _
      rw [event, course, List.set_set]
  | crash => cases performed

/-- Some course of events on one day ends the batch, with a store and with reports. -/
def EndsWith (b : Batch) (now : Instant) (store : Store) (reports : List Report) : Prop :=
  ∃ events : List (Clocks × Event), (∀ e ∈ events, e.1.now = now) ∧ (b.afterAll events).isOver = true ∧
    (b.afterAll events).store = store ∧ (b.afterAll events).reports = reports

theorem EndsWith.after {now : Instant} {store : Store} {reports : List Report}
    (events : List (Clocks × Event)) (still : ∀ e ∈ events, e.1.now = now)
    (ends : (b.afterAll events).EndsWith now store reports) : b.EndsWith now store reports := by
  obtain ⟨more, still', finished, same, all⟩ := ends
  have course : b.afterAll (events ++ more) = (b.afterAll events).afterAll more := List.foldl_append
  refine ⟨events ++ more, fun e member => ?_, ?_⟩
  · rcases List.mem_append.mp member with first | last
    · exact still e first
    · exact still' e last
  · rw [course]
    exact ⟨finished, same, all⟩

private theorem started_eq (b : Batch) :
    b.started = b.reports.map .done ++ b.started.dropWhile isDone ∧ b.reports.length = b.handedOut := by
  have split : b.started.takeWhile isDone = b.reports.map .done := by
    unfold Batch.reports
    induction b.started with
    | nil => rfl
    | cons run rest ih =>
      cases run with
      | done report => exact congrArg (Activity.done report :: ·) ih
      | step | await | crash => rfl
  constructor
  · rw [← split, List.takeWhile_append_dropWhile]
  · unfold handedOut
    rw [split, List.length_map]

theorem EndsWith.names {now : Instant} {store : Store} {reports : List Report}
    (ends : b.EndsWith now store reports) (orderly : Orderly shown jobs b)
    (yields : ∀ job ∈ jobs, job.run.Yields shown fun report => report.result.feed = job.feed.name)
    (reads : ∀ clocks : Clocks, clocks.now = now → shown clocks) :
    reports.map (·.result.feed) = jobs.map (·.feed.name) := by
  obtain ⟨events, still, finished, -, rfl⟩ := ends
  have orderly := orderly.afterAll events (fun e member => reads _ (still e member)) yields
  exact orderly.reports.2 finished

/-- A site that finishes a batch stands where the batch does. -/
private structure Follows (site : Site) (done : List Report) (started : List (Activity Store Report))
    (waiting : List Job) (b : Batch) : Prop where
  store : b.store = site.store
  runs : b.started = done.reverse.map .done ++ started
  settled : ∀ run ∈ started, run.isSettled = true
  left : b.waiting = waiting
  few : started.length ≤ max b.width 1
  some : started = [] → waiting = []

private theorem takeWhile_done (reports : List Report) (rest : List (Activity Store Report)) :
    (reports.map Activity.done ++ rest).takeWhile isDone =
      reports.map Activity.done ++ rest.takeWhile isDone := by
  refine List.takeWhile_append_of_pos fun run member => ?_
  obtain ⟨report, -, rfl⟩ := List.mem_map.mp member
  rfl

private theorem Follows.endsWith {site : Site} {done : List Report} {waiting : List Job}
    (follows : Follows site done [] waiting b) (now : Instant) :
    b.EndsWith now site.store done.reverse := by
  have runs := follows.runs
  have none := follows.left.trans (follows.some rfl)
  rw [List.append_nil] at runs
  have all := takeWhile_done done.reverse []
  rw [List.append_nil, List.takeWhile_nil, List.append_nil] at all
  refine ⟨[], fun _ => nofun, ?_, follows.store, ?_⟩
  · simp [afterAll, isOver, none, runs, isDone]
  · simp only [afterAll, List.foldl_nil, Batch.reports, runs, all, List.filterMap_map]
    exact List.filterMap_some

/-- The first of the runs in progress is performed to its end. -/
private theorem Follows.first {site later : Site} {done : List Report} {run : Activity Store Report}
    {rest : List (Activity Store Report)} {waiting : List Job} {report : Report}
    (follows : Follows site done (run :: rest) waiting b)
    (performed : site.perform run = (later, .some report)) :
    ∃ events, (∀ e ∈ events, e.1.now = site.session.clocks.now) ∧ b.afterAll events =
      { b with store := later.store, started := (report :: done).reverse.map .done ++ rest } := by
  have present : b.started[done.length]? = .some run := by simp [follows.runs]
  have settle : run.settle site.session.clocks site.store = (site.store, run) :=
    Activity.settle_of_isSettled (follows.settled run List.mem_cons_self)
  obtain ⟨events, still, course⟩ := perform_course performed (by rw [settle, follows.store])
    (by rw [settle]; exact present)
  refine ⟨events, still, ?_⟩
  rw [course, follows.runs]
  simp

private theorem start_course (site : Site) {job : Job} {rest : List Job} (store : b.store = site.store)
    (waiting : b.waiting = job :: rest) (may : b.mayStart = true) :
    b.after site.session.clocks .start =
      { b with
        store := (site.start job).1.store
        started := b.started ++ [(site.start job).2], waiting := rest } := by
  simp only [Batch.after, waiting, may, if_true, store]
  rfl

private theorem finish_endsWith {site later : Site} {done reports : List Report}
    {started : List (Activity Store Report)} {waiting : List Job} (follows : Follows site done started waiting b)
    (finished : site.finish done started waiting = (later, some reports)) :
    b.EndsWith site.session.clocks.now later.store reports := by
  fun_induction Site.finish site done started waiting generalizing b with
  | case1 site done waiting =>
    cases finished
    exact follows.endsWith _
  | case2 => cases finished
  | case3 site done run rest ended report performed ih =>
    obtain ⟨events, still, course⟩ := follows.first performed
    have now := site.perform_now run
    rw [performed] at now
    have follows : Follows ended (report :: done) rest [] (b.afterAll events) := by
      rw [course]
      exact ⟨rfl, rfl, fun run member => follows.settled run (List.mem_cons_of_mem _ member), follows.left,
        Nat.le_of_succ_le follows.few, fun _ => rfl⟩
    exact .after events still (now ▸ ih follows finished)
  | case4 site done run rest ended report performed job waiting next begun starts ih =>
    obtain ⟨events, still, course⟩ := follows.first performed
    have now := site.perform_now run
    rw [performed] at now
    have may : (b.afterAll events).mayStart = true := by
      have few := follows.few
      simp only [List.length_cons] at few
      unfold mayStart handedOut
      rw [course, takeWhile_done, decide_eq_true_eq]
      simp only [List.length_append, List.length_map, List.length_reverse, List.length_cons]
      omega
    have event := start_course ended (by rw [course]) (by rw [course, follows.left]) may
    have settled : (ended.start job).2.isSettled = true := Activity.settle_isSettled
    rw [starts] at event settled
    have same : next.session = ended.session := congrArg (·.1.session) starts.symm
    have follows : Follows next (report :: done) (rest ++ [begun]) waiting
        ((b.afterAll events).after ended.session.clocks .start) := by
      rw [event, course]
      refine ⟨rfl, List.append_assoc _ _ _, fun run member => ?_, rfl, ?_, ?_⟩
      · rcases List.mem_append.mp member with earlier | last
        · exact follows.settled run (List.mem_cons_of_mem _ earlier)
        · exact List.mem_singleton.mp last ▸ settled
      · simpa using follows.few
      · simp
    have ends := ih follows finished
    have today : next.session.clocks.now = site.session.clocks.now := same ▸ now
    rw [today] at ends
    have started := EndsWith.after (b := b.afterAll events) [(ended.session.clocks, .start)]
      (fun e member => (List.mem_singleton.mp member) ▸ now) ends
    exact .after events still started

/-- Runs that will come to a report are performed to their end. -/
private theorem finish_isSome {site : Site} {done : List Report} {started : List (Activity Store Report)}
    {waiting : List Job} (going : ∀ run ∈ started, ∃ yield, run.Yields shown yield)
    (yields : ∀ job ∈ waiting, ∃ yield, job.run.Yields shown yield)
    (reads : ∀ clocks : Clocks, clocks.now = site.session.clocks.now → shown clocks) :
    ∃ later reports, site.finish done started waiting = (later, some reports) := by
  fun_induction Site.finish site done started waiting with
  | case1 site done waiting => exact ⟨site, done.reverse, rfl⟩
  | case2 site done run rest waiting later crashed =>
    obtain ⟨yield, promise⟩ := going run List.mem_cons_self
    obtain ⟨report, ended, performed, -⟩ := site.ends_of_yields promise reads
    cases crashed.symm.trans performed
  | case3 site done run rest ended report performed ih =>
    have now := site.perform_now run
    rw [performed] at now
    exact ih (fun run member => going run (List.mem_cons_of_mem _ member)) yields
      fun clocks same => reads _ (same.trans now)
  | case4 site done run rest ended report performed job waiting next begun starts ih =>
    have now := site.perform_now run
    rw [performed] at now
    have begins : (ended.start job).2 = begun := congrArg (·.2) starts
    have same : next.session = ended.session := congrArg (·.1.session) starts.symm
    refine ih (fun run member => ?_) (fun job member => yields job (List.mem_cons_of_mem _ member))
      fun clocks shows => reads _ (shows.trans (same ▸ now))
    rcases List.mem_append.mp member with earlier | last
    · exact going run (List.mem_cons_of_mem _ earlier)
    · obtain ⟨yield, promise⟩ := yields job List.mem_cons_self
      rw [List.mem_singleton.mp last, ← begins]
      exact ⟨yield, promise.settle (reads _ now)⟩

private theorem startAll_course (site : Site) (b : Batch) (first rest : List Job) (store : b.store = site.store)
    (waiting : b.waiting = first ++ rest) (room : b.started.length + first.length ≤ max b.width 1) :
    ∃ events : List (Clocks × Event), (∀ e ∈ events, e.1.now = site.session.clocks.now) ∧
      (site.startAll first).1.session = site.session ∧
      (site.startAll first).2.length = first.length ∧ b.afterAll events =
        { b with
          store := (site.startAll first).1.store
          started := b.started ++ (site.startAll first).2, waiting := rest } := by
  induction first generalizing site b with
  | nil =>
    refine ⟨[], fun _ => nofun, rfl, rfl, ?_⟩
    simp only [afterAll, List.foldl_nil, Site.startAll, List.append_nil, ← store]
    rw [← show b.waiting = rest from waiting]
  | cons job first ih =>
    simp only [List.length_cons] at room
    have may : b.mayStart = true := by
      unfold mayStart
      rw [decide_eq_true_eq]
      omega
    have event := start_course site store waiting may
    have room : (b.after site.session.clocks .start).started.length + first.length ≤
        max (b.after site.session.clocks .start).width 1 := by
      rw [event]
      simp only [List.length_append, List.length_singleton]
      omega
    obtain ⟨events, still, session, length, course⟩ := ih (site.start job).1 _ (by rw [event])
      (by rw [event]; rfl) room
    refine ⟨(site.session.clocks, .start) :: events, ?_, session, congrArg Nat.succ length, ?_⟩
    · intro e member
      rcases List.mem_cons.mp member with rfl | later
      · rfl
      · exact still e later
    · rw [event] at course
      change (b.after site.session.clocks .start).afterAll events = _
      rw [event, course]
      simp only [Site.startAll, List.append_assoc, List.singleton_append]

private theorem startAll_cons (site : Site) (job : Job) (rest : List Job) : (site.startAll (job :: rest)).2 =
    (site.start job).2 :: ((site.start job).1.startAll rest).2 := rfl

private theorem startAll_settled (site : Site) (jobs : List Job) :
    ∀ run ∈ (site.startAll jobs).2, run.isSettled = true := by
  induction jobs generalizing site with
  | nil => exact fun _ => nofun
  | cons job rest ih =>
    rw [startAll_cons]
    exact List.forall_mem_cons.mpr ⟨Activity.settle_isSettled, ih _⟩

private theorem startAll_yields {site : Site} {jobs : List Job}
    (yields : ∀ job ∈ jobs, ∃ yield, job.run.Yields shown yield)
    (reads : ∀ clocks : Clocks, clocks.now = site.session.clocks.now → shown clocks) :
    ∀ run ∈ (site.startAll jobs).2, ∃ yield, run.Yields shown yield := by
  induction jobs generalizing site with
  | nil => exact fun _ => nofun
  | cons job rest ih =>
    obtain ⟨first, others⟩ := List.forall_mem_cons.mp yields
    obtain ⟨yield, promise⟩ := first
    rw [startAll_cons]
    exact List.forall_mem_cons.mpr ⟨⟨yield, promise.settle (reads _ rfl)⟩, ih others reads⟩

/-- A collection that comes to reports is a course of events that ends the batch. -/
theorem endsWith_of_collect {site later : Site} {width : Nat} {jobs : List Job} {reports : List Report}
    (collected : site.collect width jobs = (later, some reports)) :
    (new site.store width jobs).EndsWith site.session.clocks.now later.store reports := by
  have room : (new site.store width jobs).started.length + (jobs.take (max width 1)).length ≤ max width 1 := by
    simp only [new, List.length_nil, Nat.zero_add]
    exact List.length_take_le _ _
  obtain ⟨events, still, session, length, course⟩ := startAll_course site (new site.store width jobs)
    (jobs.take (max width 1)) (jobs.drop (max width 1)) rfl (List.take_append_drop _ jobs).symm room
  have follows : Follows (site.startAll (jobs.take (max width 1))).1 []
      (site.startAll (jobs.take (max width 1))).2 (jobs.drop (max width 1))
      ((new site.store width jobs).afterAll events) := by
    rw [course]
    refine ⟨rfl, rfl, startAll_settled _ _, rfl, ?_, fun none => ?_⟩
    · rw [length]
      exact List.length_take_le _ _
    · rw [none, List.length_nil] at length
      rw [List.length_take] at length
      refine List.drop_eq_nil_of_le ?_
      omega
  have ends := finish_endsWith follows collected
  rw [session] at ends
  exact .after events still ends

/-- A collection is a course of events that ends the batch. -/
theorem collect_endsWith (site : Site) (width : Nat) (jobs : List Job)
    (yields : ∀ job ∈ jobs, job.run.Yields shown fun report => report.result.feed = job.feed.name)
    (reads : ∀ clocks : Clocks, clocks.now = site.session.clocks.now → shown clocks) :
    ∃ later reports, site.collect width jobs = (later, some reports) ∧
      (new site.store width jobs).EndsWith site.session.clocks.now later.store reports := by
  have session (jobs : List Job) : (site.startAll jobs).1.session = site.session := by
    induction jobs generalizing site with
    | nil => rfl
    | cons job rest ih => exact ih (site.start job).1 reads
  obtain ⟨later, reports, collected⟩ : ∃ later reports, site.collect width jobs = (later, some reports) :=
    finish_isSome (startAll_yields (fun job member => ⟨_, yields job (List.mem_of_mem_take member)⟩) reads)
      (fun job member => ⟨_, yields job (List.mem_of_mem_drop member)⟩) (session (jobs.take (max width 1)) ▸ reads)
  exact ⟨later, reports, collected, endsWith_of_collect collected⟩

/-- Wherever a batch has got to, it can come to its end. -/
theorem Orderly.endsWith (orderly : Orderly shown jobs b) (site : Site) (store : b.store = site.store)
    (yields : ∀ job ∈ jobs, job.run.Yields shown fun report => report.result.feed = job.feed.name)
    (reads : ∀ clocks : Clocks, clocks.now = site.session.clocks.now → shown clocks) :
    ∃ store reports, b.EndsWith site.session.clocks.now store reports := by
  obtain ⟨runs, handed⟩ := started_eq b
  have few := orderly.few
  have length := congrArg List.length runs
  rw [List.length_append, List.length_map, handed] at length
  have promised : ∀ job ∈ b.waiting, ∃ yield, job.run.Yields shown yield := by
    obtain ⟨front, all, -⟩ := orderly.front
    exact fun job member => ⟨_, yields job (all ▸ List.mem_append_right _ member)⟩
  by_cases stuck : b.started.dropWhile isDone = [] ∧ b.waiting ≠ []
  · -- Every run has ended, and another is to be started first.
    obtain ⟨none, some⟩ := stuck
    rw [none] at runs length
    obtain ⟨job, rest, waiting⟩ := List.exists_cons_of_ne_nil some
    have may : b.mayStart = true := by
      unfold mayStart
      rw [decide_eq_true_eq, length, List.length_nil]
      omega
    have event := start_course site store waiting may
    rw [waiting] at promised
    obtain ⟨yield, promise⟩ := promised job List.mem_cons_self
    have follows : Follows (site.start job).1 b.reports.reverse [(site.start job).2] rest
        (b.after site.session.clocks .start) := by
      rw [event]
      refine ⟨rfl, ?_, List.forall_mem_singleton.mpr Activity.settle_isSettled, rfl, Nat.le_max_right _ _, nofun⟩
      rw [List.reverse_reverse]
      exact congrArg (· ++ [(site.start job).2]) (runs.trans (List.append_nil _))
    obtain ⟨later, reports, finished⟩ : ∃ later reports,
        (site.start job).1.finish b.reports.reverse [(site.start job).2] rest = (later, .some reports) :=
      finish_isSome (List.forall_mem_singleton.mpr ⟨yield, promise.settle (reads site.session.clocks rfl)⟩)
        (fun job member => promised job (List.mem_cons_of_mem _ member)) reads
    have ends := finish_endsWith follows finished
    have started := EndsWith.after (b := b) [(site.session.clocks, .start)]
      (List.forall_mem_singleton.mpr rfl) ends
    exact ⟨_, reports, started⟩
  · have going (run : Activity Store Report) (member : run ∈ b.started.dropWhile isDone) :=
      orderly.promises (List.dropWhile_suffix _ |>.subset member)
    have follows : Follows site b.reports.reverse (b.started.dropWhile isDone) b.waiting b := by
      refine ⟨store, ?_, fun run member => ?_, rfl, by omega, fun none => ?_⟩
      · rwa [List.reverse_reverse]
      · obtain ⟨-, settled, -⟩ := going run member
        exact settled
      · exact by_contra fun some => stuck ⟨none, some⟩
    obtain ⟨later, reports, finished⟩ : ∃ later reports,
        site.finish b.reports.reverse (b.started.dropWhile isDone) b.waiting = (later, some reports) :=
      finish_isSome (fun run member => have ⟨_, _, yields⟩ := going run member; ⟨_, yields⟩) promised reads
    exact ⟨_, reports, finish_endsWith follows finished⟩

end Batch

namespace Collector

/-- The window in which duplicates are looked for lies within the calendar. -/
def ReachesAt (c : Collector) (now : Instant) : Prop :=
  (Store.daysBefore? now c.live.current.collection.dedupWindowDays).isSome = true

theorem jobs_yield (c : Collector) : ∀ job ∈ c.enabledJobs,
    job.run.Yields (fun clocks => c.ReachesAt clocks.now) fun report => report.result.feed = job.feed.name := by
  intro job member
  obtain ⟨feed, -, rfl⟩ := List.mem_map.mp member
  exact (c.job feed).run_yields

theorem enabledJobs_names (c : Collector) :
    c.enabledJobs.map (·.feed.name) = c.live.current.enabledFeeds.map (·.name) := by
  rw [enabledJobs, List.map_map]
  rfl

theorem collectFeed_reports (c : Collector) (reach : c.ReachesAt c.site.session.clocks.now)
    (feed : Config.FeedConfig) :
    ∃ later result, c.collectFeed feed = (later, some result) ∧ result.feed = feed.name := by
  have reads (clocks : Clocks) (same : clocks.now = c.site.session.clocks.now) :
      c.ReachesAt clocks.now := same ▸ reach
  obtain ⟨report, later, performed, -, named⟩ := c.site.ends_of_yields (c.job feed).run_yields reads
  refine ⟨{ c with site := later }, report.result, ?_, named⟩
  unfold collectFeed
  rw [performed]
  rfl

theorem collectEnabled_reports (c : Collector) (reach : c.ReachesAt c.site.session.clocks.now) :
    ∃ later results, c.collectEnabled = (later, some results) ∧
      results.map (·.feed) = c.live.current.enabledFeeds.map (·.name) := by
  have reads (clocks : Clocks) (same : clocks.now = c.site.session.clocks.now) :
      c.ReachesAt clocks.now := same ▸ reach
  obtain ⟨site, reports, collected, ends⟩ := Batch.collect_endsWith c.site
    c.live.current.collection.maxConcurrentFeeds c.enabledJobs c.jobs_yield reads
  refine ⟨{ c with site }, reports.map (·.result), ?_, ?_⟩
  · unfold collectEnabled
    rw [collected]
    rfl
  · rw [List.map_map]
    exact (ends.names (.new _ _ _ _) c.jobs_yield reads).trans c.enabledJobs_names

/-- An event is a turn of one feed, which the other feeds do not notice. -/
private theorem turn_of_feed (c : Collector) (valid : c.live.current.validate = .ok ())
    (sound : c.site.store.Sound) (width : Nat) (past : List (Clocks × Batch.Event)) (clocks : Clocks)
    (event : Batch.Event) :
    let b := (Batch.new c.site.store width c.enabledJobs).afterAll past
    b.after clocks event = b ∨ ∃ feed, c.live.current.enabledFeeds[b.turn event]? = some feed ∧
      Store.Confined "rss" feed.url b.store (b.after clocks event).store ∧
      ∀ index other, index ≠ b.turn event → c.live.current.enabledFeeds[index]? = some other →
        (b.after clocks event).store.sourceRowAt? "rss" other.url =
          b.store.sourceRowAt? "rss" other.url := by
  intro b
  rcases Batch.turn_writes sound width c.enabledJobs past clocks event with same | ⟨job, turn, confined⟩
  · exact Or.inl same
  refine Or.inr ?_
  obtain ⟨feed, here, rfl⟩ := Option.map_eq_some_iff.mp (List.getElem?_map.symm.trans turn)
  have here : c.live.current.enabledFeeds[b.turn event]? = some feed := here
  refine ⟨feed, here, confined, fun index other differs there => confined.sourceRowAt?_eq fun same => differs ?_⟩
  have distinct : (c.live.current.enabledFeeds.map (·.url)).Nodup :=
    (Config.validate_feeds valid).1.sublist (List.filter_sublist.map _)
  have urls : (c.live.current.enabledFeeds.map (·.url))[index]? =
      (c.live.current.enabledFeeds.map (·.url))[b.turn event]? := by
    rw [List.getElem?_map, List.getElem?_map, there, here]
    exact congrArg some (Prod.mk.inj same).2
  obtain ⟨inside, -⟩ := List.getElem?_eq_some_iff.mp there
  exact (List.getElem?_inj (by rwa [List.length_map]) distinct).mp urls

/-- In whatever order the runs of a batch go on, none crashes, no more of them than allowed are in
progress, reports are handed out in the order of the configuration and under the names of its feeds,
and the batch can come to its end. In each turn the run of one feed writes to the source of that feed
and adds items of its own, and no other feed notices. A collection is such a course of events. -/
theorem enabled_feeds_collected (c : Collector) (valid : c.live.current.validate = .ok ())
    (sound : c.site.store.Sound) (now : c.ReachesAt c.site.session.clocks.now) (width : Nat)
    (events : List (Clocks × Batch.Event)) (reach : ∀ e ∈ events, c.ReachesAt e.1.now) :
    let names := c.live.current.enabledFeeds.map (·.name)
    let b := (Batch.new c.site.store width c.enabledJobs).afterAll events
    (b.isCrashed = false ∧ b.inProgress ≤ max 1 width ∧ b.reports.map (·.result.feed) <+: names ∧
      (b.isOver = true → b.reports.map (·.result.feed) = names) ∧
      ∃ store reports, b.EndsWith c.site.session.clocks.now store reports) ∧
    (∀ clocks event, b.after clocks event = b ∨
      ∃ feed, c.live.current.enabledFeeds[b.turn event]? = some feed ∧
        Store.Confined "rss" feed.url b.store (b.after clocks event).store ∧
        ∀ index other, index ≠ b.turn event → c.live.current.enabledFeeds[index]? = some other →
          (b.after clocks event).store.sourceRowAt? "rss" other.url =
            b.store.sourceRowAt? "rss" other.url) ∧
    (∀ feed, Store.Confined "rss" feed.url c.site.store (c.collectFeed feed).1.site.store) ∧
    ∃ later reports, c.collectEnabled = (later, some (reports.map (·.result))) ∧
      reports.map (·.result.feed) = names ∧
      (Batch.new c.site.store c.live.current.collection.maxConcurrentFeeds c.enabledJobs).EndsWith
        c.site.session.clocks.now later.site.store reports := by
  intro names b
  have orderly : Batch.Orderly (fun clocks => c.ReachesAt clocks.now) c.enabledJobs b :=
    (Batch.Orderly.new _ c.site.store width c.enabledJobs).afterAll events reach c.jobs_yield
  obtain ⟨inOrder, whole⟩ := orderly.reports
  rw [c.enabledJobs_names] at inOrder whole
  have few : b.inProgress ≤ max 1 width := by
    have most := b.inProgress_le
    have few := orderly.few
    have same : b.width = width := Batch.afterAll_width _ events
    rw [same] at few
    omega
  have reads (clocks : Clocks) (same : clocks.now = c.site.session.clocks.now) :
      c.ReachesAt clocks.now := same ▸ now
  have ends := orderly.endsWith { c.site with store := b.store } rfl c.jobs_yield reads
  refine ⟨⟨orderly.isCrashed, few, inOrder, whole, ends⟩, c.turn_of_feed valid sound width events, ?_, ?_⟩
  · intro feed
    have writes : (c.job feed).Writes (fun _ => True) c.site.store (c.collectFeed feed).1.site.store :=
      (c.job feed).perform_writes c.site sound trivial
    exact writes.2 sound
  · obtain ⟨later, reports, collected, ends⟩ := Batch.collect_endsWith c.site
      c.live.current.collection.maxConcurrentFeeds c.enabledJobs c.jobs_yield reads
    refine ⟨{ c with site := later }, reports, ?_, ?_, ends⟩
    · unfold collectEnabled
      rw [collected]
      rfl
    · exact (ends.names (.new _ _ _ _) c.jobs_yield reads).trans c.enabledJobs_names

/-- A feed of one entry without an article. -/
def brief : String :=
  "\x7b\"version\":\"https://jsonfeed.org/version/1\",\"title\":\"W\"," ++
    "\"items\":[\x7b\"id\":\"http://g.example/a\",\"title\":\"A\"\x7d]\x7d"

/-- A collector of two feeds, the first of which is gone. -/
def twoFeeds : Collector :=
  let feeds := [{ plainFeed "http://f.example/" [] with name := "Gone" }, plainFeed "http://g.example/" []]
  let web := Web.Script.new true [("http://g.example/", [⟨200, [], Text.Utf8.encodeText brief, none⟩])]
  { live := .ofConfig ⟨1, .standard, .standard, feeds⟩
    site := ⟨⟨⟨.epoch, 0⟩, .new 0, 1, web, true, []⟩, (Store.History.new []).store⟩
    maxRetries := 0 }

/-- The second feed is collected to its end while the first still waits. -/
def secondAhead : List (Clocks × Batch.Event) :=
  [(⟨.epoch, 0⟩, .start), (⟨.epoch, 0⟩, .start)] ++ [none, some brief, none, none].map fun document =>
    (⟨.epoch, 0⟩, .resume 1 (answering document))

set_option maxRecDepth 10000 in
theorem enabled_feeds_collected_two :
    let b := (Batch.new twoFeeds.site.store 2 twoFeeds.enabledJobs).afterAll secondAhead
    twoFeeds.live.current.validate = .ok () ∧ twoFeeds.site.store.Sound ∧
      twoFeeds.ReachesAt twoFeeds.site.session.clocks.now ∧
      (∀ e ∈ secondAhead, twoFeeds.ReachesAt e.1.now) ∧ b.store.items.length = 1 ∧ b.inProgress = 1 ∧
      b.isCrashed = false ∧ b.inProgress ≤ 2 ∧ b.reports.map (·.result.feed) <+: ["Gone", "Wire"] ∧
      ∃ (later : Collector) (reports : List Report),
        twoFeeds.collectEnabled = (later, some (reports.map (·.result))) ∧
        reports.map (·.result.feed) = ["Gone", "Wire"] := by
  have valid : twoFeeds.live.current.validate = .ok () := by decide +kernel
  have sound : twoFeeds.site.store.Sound := Store.new_sound []
  have now : twoFeeds.ReachesAt twoFeeds.site.session.clocks.now := by
    unfold ReachesAt
    decide +kernel
  have reach : ∀ e ∈ secondAhead, twoFeeds.ReachesAt e.1.now := by
    unfold ReachesAt
    decide +kernel
  obtain ⟨⟨crashed, few, inOrder, -, -⟩, -, -, later, reports, collected, named, -⟩ :=
    enabled_feeds_collected twoFeeds valid sound now 2 secondAhead reach
  exact ⟨valid, sound, now, reach, by decide +kernel, by decide +kernel, crashed, few, inOrder, later,
    reports, collected, named⟩

end Collector

end Harvest.Collect
