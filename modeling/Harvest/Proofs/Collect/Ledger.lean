import Harvest.Proofs.Collect.Completion
import Harvest.Proofs.Collect.Order
import Harvest.Proofs.Collect.Upshot
import Harvest.Proofs.Web.Gain

/-!
The ledger of a batch. A run keeps a journal of its entries, in whatever company it goes on and wherever its
time runs out: its result counts the journal, and its own steps add one item to the store for each stored
entry. The runs of a batch therefore add up to what the store has gained.
-/

namespace Harvest.Collect

open Web (Activity)

/-! ### Parts of a run -/

namespace Work

variable {α β : Type} {progress : Progress} {gained : Nat}

/-- What a part of a run adds to the items, from some progress on. -/
def Gains (result : Nat → Except Fault α → Progress → Prop) (work : Work α) (progress : Progress)
    (gained : Nat) : Prop :=
  (work.activity progress).Gains Store.countItems (fun later ended => result later ended.1 ended.2) gained

theorem gains_bind {result : Nat → Except Fault β → Progress → Prop} {work : Work α} {next : α → Work β} :
    (work >>= next).Gains result progress gained ↔ work.Gains (fun gained outcome progress =>
      match outcome with
      | .ok a => (next a).Gains result progress gained
      | .error fault => result gained (.error fault) progress) progress gained := by
  unfold Gains
  rw [activity_bind, Activity.gains_bind]
  apply iff_of_eq
  congr 1
  funext gained ⟨outcome, progress⟩
  cases outcome with
  | ok _ => rfl
  | error _ => rfl

variable {result : Nat → Except Fault α → Progress → Prop}

theorem Gains.mono {result' : Nat → Except Fault α → Progress → Prop} {work : Work α}
    (gains : work.Gains result progress gained)
    (weaker : ∀ gained outcome progress, result gained outcome progress → result' gained outcome progress) :
    work.Gains result' progress gained :=
  Activity.Gains.mono gains fun gained ended => weaker gained ended.1 ended.2

theorem gains_pure {a : α} : (pure a : Work α).Gains result progress gained ↔ result gained (.ok a) progress :=
  Iff.rfl

theorem gains_enter {result : Nat → Except Fault Unit → Progress → Prop} {target : Stage} :
    (enter target).Gains result progress gained ↔ result gained (progress.tracker.advance target).2
      { progress with tracker := (progress.tracker.advance target).1 } := by
  unfold Gains
  rw [activity_enter]
  exact Iff.rfl

theorem gains_tally {result : Nat → Except Fault Unit → Progress → Prop} {change : RunResult → RunResult} :
    (tally change).Gains result progress gained ↔
      result gained (.ok ()) { progress with result := change progress.result } := Iff.rfl

theorem gains_clocks {result : Nat → Except Fault Clocks → Progress → Prop}
    (is : ∀ clocks, result gained (.ok clocks) progress) : Work.clocks.Gains result progress gained :=
  fun clocks _ => ⟨0, rfl, is clocks⟩

/-- A transaction that leaves the items as they are. -/
theorem gains_transact {change : Clocks → Store → Store × Except Store.Error α}
    (items : ∀ clocks store, (change clocks store).1.items = store.items)
    (is : ∀ outcome : Except Store.Error α, result gained (outcome.mapError .store) progress) :
    (transact change).Gains result progress gained := by
  unfold Gains
  rw [activity_transact]
  intro clocks store
  refine ⟨0, congrArg List.length (items clocks store), ?_⟩
  exact is (change clocks store).2

theorem gains_inTime {job : Job} {activity : Activity Store (Option α)} :
    (job.inTime activity).Gains result progress gained ↔
      activity.Gains Store.countItems (fun gained outcome => match outcome with
        | some a => result gained (.ok a) progress
        | none => result gained (.error job.timeoutFault) progress) gained := by
  unfold Gains
  rw [activity_inTime, Activity.gains_bind]
  apply iff_of_eq
  congr 1
  funext gained outcome
  cases outcome with
  | none => rfl
  | some _ => rfl

end Work

namespace Tracker

theorem entered_advance (t : Tracker) {stage target : Stage} (apart : stage ≠ target) :
    stage ∈ (t.advance target).1.entered ↔ stage ∈ t.entered := by
  unfold advance
  split
  · simp [entered, apart]
  · simp [entered]

end Tracker

namespace Job

open Work

/-- Whether a run with this fault was in the middle of an entry when its time ran out. -/
def TimedOutWithin (job : Job) (fault : Option Fault) (report : Report) : Prop :=
  fault = some job.timeoutFault ∧ .processingEntries ∈ report.tracker.entered

instance (job : Job) (fault : Option Fault) (report : Report) : Decidable (job.TimedOutWithin fault report) :=
  inferInstanceAs (Decidable (_ ∧ _))

/-- How many entries such a run had begun and not finished. -/
def begun (job : Job) (fault : Option Fault) (report : Report) : Nat :=
  if job.TimedOutWithin fault report then 1 else 0

/-- How many items an entry leaves in the store. -/
private def storedBy (outcome : Except Store.Error EntryOutcome) : Nat :=
  match outcome with
  | .ok (.stored _) => 1
  | _ => 0

private theorem stored_concat (journal : Journal) (entry : Feed.Entry)
    (outcome : Except Store.Error EntryOutcome) :
    (Journal.stored (journal ++ [(entry, outcome)])).length = journal.stored.length + storedBy outcome := by
  rw [Journal.stored, List.filterMap_append, List.length_append]
  cases outcome with
  | error e => rfl
  | ok outcome =>
    cases outcome with
    | stored id => rfl
    | skipped reason => rfl

private theorem storeItem_gains (store : Store) (draft : Item.Draft) :
    (storeItem store draft).1.countItems = store.countItems + storedBy (storeItem store draft).2 := by
  unfold storeItem
  cases done : store.insertItem draft with
  | error e =>
    dsimp only
    split
    · rfl
    · rfl
  | ok answer =>
    obtain ⟨id, later⟩ := answer
    obtain ⟨-, rfl⟩ := Store.insertItem_ok done
    exact List.length_append

private theorem processEntry_gains (job : Job) (deadline : Option Nat) (sourceId : Int) (entry : Feed.Entry)
    (gained : Nat) : (job.processEntry deadline sourceId entry).Gains Store.countItems
      (fun later outcome => later = gained + (outcome.map storedBy).getD 0) gained := by
  unfold processEntry
  split
  · rfl
  rw [Activity.gains_bind]
  refine ((job.fetching deadline).fetch_gains _ gained).mono fun later fetched same => ?_
  subst same
  split
  · rfl
  split
  · rfl
  unfold submit look
  rw [Activity.gains_bind, Activity.gains_bind]
  refine fun clocks store => ⟨0, rfl, ?_⟩
  dsimp only
  split
  next found _ =>
    cases found with
    | some duplicate => rfl
    | none => exact fun clocks store => ⟨_, storeItem_gains store _, rfl⟩
  · trivial

end Job

namespace RunResult

/-- One more entry is gone through. -/
theorem Untold.count {r : RunResult} {journal : Journal} (untold : r.Untold journal 0) (entry : Feed.Entry)
    (outcome : Except Store.Error EntryOutcome) :
    (Job.count entry outcome { r with fetched := r.fetched + 1 }).Untold (journal ++ [(entry, outcome)]) 0 := by
  obtain ⟨failure, errors, fetched, stored, skipped, transientErrors, terminalErrors, windowEnd⟩ := untold
  match outcome with
  | .ok (.stored id) =>
    refine ⟨failure, ?_, ?_, ?_, ?_, transientErrors, terminalErrors, windowEnd⟩
    all_goals simp_all [Job.count, Journal.errors, Journal.faults, Journal.stored, Journal.skipped]
  | .ok (.skipped reason) =>
    refine ⟨failure, ?_, ?_, ?_, ?_, transientErrors, terminalErrors, windowEnd⟩
    all_goals simp_all [Job.count, Journal.errors, Journal.faults, Journal.stored, Journal.skipped]
  | .error e =>
    refine ⟨failure, ?_, ?_, ?_, ?_, transientErrors, terminalErrors, windowEnd⟩
    all_goals simp_all [Job.count, recordEntryError, Journal.errors, Journal.faults, Journal.stored, Journal.skipped]

/-- The result counts a journal, with so many entries begun beyond it, and the stored entries are all that
was gained. -/
def Books (r : RunResult) (begun gained : Nat) : Prop :=
  ∃ journal : Journal, r.Untold journal begun ∧ gained = journal.stored.length

end RunResult

namespace Job

open Work

/-- A report that counts a journal, with as many stored entries as items were gained. -/
def Balances (job : Job) (gained : Nat) (report : Report) : Prop :=
  ∃ fault journal, report.result.Tells fault journal (job.begun fault report) ∧
    gained = journal.stored.length

variable {job : Job}

private theorem processEntries_gains (job : Job) (deadline : Option Nat) (sourceId : Int) (range : ObservedRange)
    (entries : List Feed.Entry) {tracker : Tracker} {r : RunResult} {gained : Nat} (books : r.Books 0 gained) :
    (job.processEntries deadline sourceId range entries).Gains (fun gained outcome progress =>
      progress.tracker = tracker ∧ match outcome with
        | .ok _ => progress.result.Books 0 gained
        | .error fault => fault = job.timeoutFault ∧ progress.result.Books 1 gained) ⟨tracker, r⟩ gained := by
  induction entries generalizing range r gained with
  | nil => exact ⟨rfl, books⟩
  | cons entry rest ih =>
    obtain ⟨journal, untold, rfl⟩ := books
    rw [processEntries, gains_bind, gains_tally]
    dsimp only
    rw [gains_bind, gains_inTime]
    refine (job.processEntry_gains deadline sourceId entry _).mono fun later outcome same => ?_
    subst same
    cases outcome with
    | none =>
      -- The entry in hand is counted as fetched, and has no outcome.
      obtain ⟨failure, errors, fetched, stored, skipped, transientErrors, terminalErrors, windowEnd⟩ := untold
      exact ⟨rfl, rfl, journal, ⟨failure, errors, congrArg (· + 1) fetched, stored, skipped, transientErrors,
        terminalErrors, windowEnd⟩, rfl⟩
    | some outcome =>
      dsimp only
      rw [gains_bind, gains_tally]
      exact ih _ ⟨journal ++ [(entry, outcome)], untold.count entry outcome, (stored_concat ..).symm⟩

private theorem begun_of_not_entered {fault : Option Fault} {report : Report}
    (before : .processingEntries ∉ report.tracker.entered) : job.begun fault report = 0 :=
  if_neg fun within => before within.2

private theorem collectEntries_gains (job : Job) (deadline : Option Nat) (sourceId : Int) {r : RunResult}
    {gained : Nat} (books : r.Books 0 gained) :
    (job.collectEntries deadline sourceId).Gains (fun gained outcome progress => match outcome with
        | .ok _ => progress.tracker = .along Stage.working ∧ progress.result.Books 0 gained
        | .error fault => progress.result.Books (job.begun (some fault) progress) gained)
      ⟨.along [.resolvingSource, .windowing, .fetchingFeed], r⟩ gained := by
  have before : .processingEntries ∉ (Tracker.along [.resolvingSource, .windowing, .fetchingFeed]).entered := by
    decide
  have early (fault : Fault) :
      r.Books (job.begun (some fault) ⟨.along [.resolvingSource, .windowing, .fetchingFeed], r⟩) gained := by
    rw [begun_of_not_entered before]
    exact books
  unfold collectEntries
  rw [gains_bind, gains_inTime]
  refine ((job.fetching deadline).fetch_gains _ gained).mono fun later fetched same => ?_
  subst same
  rcases fetched with _ | e | document
  · exact early _
  · exact early _
  · dsimp only
    rw [gains_bind, gains_pure]
    dsimp only
    cases Feed.read document.body with
    | error e => exact early _
    | ok feed =>
      dsimp only
      rw [gains_bind, gains_pure]
      dsimp only
      rw [gains_bind, gains_enter, Tracker.advance_along rfl]
      dsimp only
      refine (job.processEntries_gains deadline sourceId _ _ books).mono fun gained outcome progress done => ?_
      obtain ⟨way, done⟩ := done
      cases outcome with
      | ok range => exact ⟨way, done⟩
      | error fault =>
        obtain ⟨rfl, books⟩ := done
        have within : job.begun (some job.timeoutFault) progress = 1 := by
          refine if_pos ⟨rfl, ?_⟩
          rw [way]
          decide
        dsimp only
        rw [within]
        exact books

private theorem stages_gains (job : Job) : job.stages.Gains (fun gained outcome progress => match outcome with
      | .ok _ => ∃ r coverage, progress.result = RunResult.withCoverage r coverage ∧ r.Books 0 gained
      | .error fault => progress.result.Books (job.begun (some fault) progress) gained)
    ⟨.along [], .new job.feed.name⟩ 0 := by
  unfold stages
  rw [gains_bind, gains_enter, Tracker.advance_along rfl]
  dsimp only
  rw [gains_bind]
  refine gains_transact (fun clocks store => Store.upsertSource_items _ _ _) fun outcome => ?_
  cases outcome with
  | error e =>
    have before : .processingEntries ∉ (Tracker.along [.resolvingSource]).entered := by decide
    dsimp only [Except.mapError]
    rw [begun_of_not_entered before]
    exact ⟨[], .new _, rfl⟩
  | ok source =>
    dsimp only [Except.mapError]
    rw [gains_bind, gains_tally]
    dsimp only
    rw [gains_bind, gains_enter, Tracker.advance_along rfl]
    dsimp only
    rw [gains_bind]
    refine gains_clocks fun start => ?_
    dsimp only
    rw [gains_bind, gains_tally]
    dsimp only
    rw [gains_bind, gains_enter, Tracker.advance_along rfl]
    dsimp only
    rw [gains_bind]
    have books : RunResult.Books (job.planned start.now source) 0 0 :=
      ⟨[], ⟨rfl, rfl, rfl, rfl, rfl, rfl, rfl, rfl⟩, rfl⟩
    refine (job.collectEntries_gains _ _ books).mono fun gained outcome progress done => ?_
    cases outcome with
    | error fault => exact done
    | ok range =>
      obtain ⟨way, books⟩ := done
      dsimp only
      rw [gains_bind]
      refine gains_transact (fun clocks store => ?_) fun outcome => ?_
      · split
        next noted => exact Store.updateSource_items noted
        · rfl
      cases outcome with
      | error e =>
        dsimp only [Except.mapError]
        have other : job.begun (some (.store e)) progress = 0 := if_neg fun within => nomatch within.1
        rw [other]
        exact books
      | ok _ =>
        dsimp only [Except.mapError]
        rw [gains_bind, gains_enter, way, Tracker.advance_along rfl]
        dsimp only
        rw [gains_bind, gains_tally]
        dsimp only
        rw [gains_enter, Tracker.advance_along rfl]
        exact ⟨_, _, rfl, books⟩

private theorem noteFailure_gains (sourceId : Int) (fault : Fault) (gained : Nat) :
    (noteFailure sourceId fault).Gains Store.countItems (fun later _ => later = gained) gained := by
  refine fun clocks store => ⟨0, ?_, rfl⟩
  dsimp only
  split
  next noted => exact congrArg List.length (Store.updateSource_items noted)
  · rfl

private theorem conclude_gains {fault : Fault} {progress : Progress} {gained : Nat}
    (books : progress.result.Books (job.begun (some fault) progress) gained) :
    (conclude fault progress).Gains Store.countItems job.Balances gained := by
  obtain ⟨journal, untold, rfl⟩ := books
  have balance : job.Balances journal.stored.length
      ⟨((progress.tracker.advance .recordingFailure).1.advance .done).1, progress.result.recordFailure fault⟩ := by
    refine ⟨some fault, journal, ?_, rfl⟩
    have same : job.begun (some fault)
        ⟨((progress.tracker.advance .recordingFailure).1.advance .done).1, progress.result.recordFailure fault⟩ =
          job.begun (some fault) progress :=
      if_congr (and_congr_right fun _ =>
        (Tracker.entered_advance _ (by decide)).trans (Tracker.entered_advance _ (by decide))) rfl rfl
    rw [same]
    exact untold.failed fault
  unfold conclude
  dsimp only
  split
  next id known =>
    change Activity.Gains _ _ _ (Activity.bind (noteFailure id fault) _)
    rw [Activity.gains_bind]
    refine (noteFailure_gains id fault _).mono fun later _ same => ?_
    subst same
    exact balance
  · exact balance

/-- A run in any company balance for the items that it adds to the store. -/
theorem run_gains (job : Job) : job.run.Gains Store.countItems job.Balances 0 := by
  -- The time that the run took is put into the report last, and touches nothing else.
  have timed {gained : Nat} {report : Report} (duration : Nat) (balance : job.Balances gained report) :
      job.Balances gained { report with result := { report.result with duration } } := by
    obtain ⟨fault, journal, tells, same⟩ := balance
    exact ⟨fault, journal, tells.lasting duration, same⟩
  rw [run_eq, Activity.gains_bind]
  refine Activity.gains_clocks fun start => ?_
  rw [Activity.gains_bind]
  refine Activity.Gains.mono job.stages_gains fun gained ended done => ?_
  rw [Activity.gains_bind]
  obtain ⟨outcome, progress⟩ := ended
  cases outcome with
  | ok _ =>
    obtain ⟨r, coverage, is, journal, untold, same⟩ := done
    have balance : job.Balances gained progress := by
      refine ⟨none, journal, ?_, same⟩
      have whole : job.begun none progress = 0 := if_neg fun within => nomatch within.1
      rw [whole, is]
      exact untold.succeeded coverage
    refine Activity.gains_bind.mpr (Activity.gains_clocks fun stop => ?_)
    exact timed _ balance
  | error fault =>
    refine (conclude_gains done).mono fun gained report balance => ?_
    refine Activity.gains_bind.mpr (Activity.gains_clocks fun stop => ?_)
    exact timed _ balance

end Job

/-! ### Batches -/

/-- The account of one run: its report and how it came about, the entries that were gone through and the
fault, if any, that ended it. -/
structure RunAccount where
  job : Job
  report : Report
  journal : Journal
  fault : Option Fault
  tells : report.result.Tells fault journal (job.begun fault report)

namespace RunAccount

/-- The run was in the middle of an entry when its time ran out. -/
def timedOutWithin (account : RunAccount) : Bool := account.job.TimedOutWithin account.fault account.report

end RunAccount

namespace Batch

/-- A run at a wait or at its end, and what its steps have added to the items so far. -/
def HasShare (run : Activity Store Report) (share : Job × Nat) : Prop :=
  run.Gains Store.countItems share.1.Balances share.2

/-- Each run of a batch has a share in what the store has gained since the batch began. -/
def Shared (store : Store) (jobs : List Job) (b : Batch) : Prop :=
  ∃ shares : List (Job × Nat), jobs = shares.map (·.1) ++ b.waiting ∧
    List.Forall₂ HasShare b.started shares ∧ b.store.countItems = store.countItems + (shares.map (·.2)).sum

/-- One run goes on, and its share grows. -/
private theorem shares_set {runs : List (Activity Store Report)} {shares : List (Job × Nat)}
    (shared : List.Forall₂ HasShare runs shares) {index : Nat} {run next : Activity Store Report}
    {grown : Nat → Prop} (present : runs[index]? = some run)
    (goes : ∀ job gained, HasShare run (job, gained) → ∃ more, grown more ∧ HasShare next (job, gained + more)) :
    ∃ shares' more, grown more ∧ List.Forall₂ HasShare (runs.set index next) shares' ∧
      shares'.map (·.1) = shares.map (·.1) ∧ (shares'.map (·.2)).sum = (shares.map (·.2)).sum + more := by
  induction shared generalizing index with
  | nil => cases present
  | @cons first share rest others has shared ih =>
    obtain ⟨job, gained⟩ := share
    cases index with
    | zero =>
      cases present
      obtain ⟨more, grows, has⟩ := goes job gained has
      refine ⟨(job, gained + more) :: others, more, grows, .cons has shared, rfl, ?_⟩
      simp only [List.map_cons, List.sum_cons]
      omega
    | succ index =>
      obtain ⟨shares, more, grows, shared, jobs, sum⟩ := ih present
      refine ⟨(job, gained) :: shares, more, grows, .cons has shared, congrArg (job :: ·) jobs, ?_⟩
      simp only [List.map_cons, List.sum_cons, sum]
      omega

variable {store : Store} {jobs : List Job} {b : Batch}

theorem Shared.after (shared : b.Shared store jobs) (clocks : Clocks) (event : Event) :
    (b.after clocks event).Shared store jobs := by
  obtain ⟨shares, all, runs, items⟩ := shared
  rcases b.after_cases clocks event with same | ⟨job, rest, -, waiting, -, after⟩ |
    ⟨deadline, wait, next, answer, present, after⟩
  · rw [same]
    exact ⟨shares, all, runs, items⟩
  · obtain ⟨more, grown, onward⟩ := job.run_gains.settle clocks b.store
    rw [after]
    refine ⟨shares ++ [(job, more)], ?_, List.rel_append runs (.cons ?_ .nil), ?_⟩
    · rw [all, waiting]
      simp
    · rwa [Nat.zero_add] at onward
    · dsimp only
      rw [grown, items]
      simp [Nat.add_assoc]
  · have goes (job : Job) (gained : Nat) (has : HasShare (.await deadline wait next) (job, gained)) :=
      Activity.Gains.settle (has answer) clocks b.store
    obtain ⟨shares', more, grown, runs', jobs', sum⟩ := shares_set runs present goes
    rw [after]
    refine ⟨shares', ?_, runs', ?_⟩
    · rw [jobs']
      exact all
    · dsimp only
      rw [grown, items, sum, Nat.add_assoc]

theorem Shared.afterAll (shared : b.Shared store jobs) (events : List (Clocks × Event)) :
    (b.afterAll events).Shared store jobs := by
  induction events generalizing b with
  | nil => exact shared
  | cons e rest ih => exact ih (shared.after e.1 e.2)

theorem Shared.new (store : Store) (width : Nat) (jobs : List Job) :
    (Batch.new store width jobs).Shared store jobs := ⟨[], rfl, .nil, rfl⟩

private theorem accounts_of_shares {runs : List (Activity Store Report)} {shares : List (Job × Nat)}
    (shared : List.Forall₂ HasShare runs shares) (ended : runs.all isDone = true) :
    ∃ accounts : List RunAccount, accounts.map (·.job) = shares.map (·.1) ∧
      runs = accounts.map (.done ·.report) ∧
      (accounts.map (·.journal.stored.length)).sum = (shares.map (·.2)).sum := by
  induction shared with
  | nil => exact ⟨[], rfl, rfl, rfl⟩
  | @cons run share rest others has shared ih =>
    obtain ⟨first, ended⟩ := Bool.and_eq_true_iff.mp ended
    obtain ⟨accounts, jobs, runs, sum⟩ := ih ended
    cases run with
    | done report =>
      obtain ⟨fault, journal, tells, gained⟩ := has
      refine ⟨⟨share.1, report, journal, fault, tells⟩ :: accounts, congrArg (_ :: ·) jobs,
        congrArg (_ :: ·) runs, ?_⟩
      simp only [List.map_cons, List.sum_cons, sum, gained]
    | step | await | crash => cases first

/-- When a batch is over, the accounts of its runs add up to what the store has gained. -/
theorem Shared.accounts (shared : b.Shared store jobs) (ended : b.isOver = true) :
    ∃ accounts : List RunAccount, accounts.map (·.job) = jobs ∧ accounts.map (·.report) = b.reports ∧
      b.store.countItems = store.countItems + (accounts.map (·.journal.stored.length)).sum := by
  obtain ⟨shares, all, runs, items⟩ := shared
  obtain ⟨none, ended⟩ := Bool.and_eq_true_iff.mp ended
  obtain ⟨accounts, jobs, runs, sum⟩ := accounts_of_shares runs ended
  refine ⟨accounts, ?_, ?_, items.trans (by rw [sum])⟩
  · rw [jobs, all, List.isEmpty_iff.mp none, List.append_nil]
  · unfold Batch.reports
    have all : b.started.takeWhile isDone = b.started := by
      rw [← List.append_nil b.started, List.takeWhile_append_of_pos (List.all_eq_true.mp ended)]
      rfl
    rw [all, runs, List.filterMap_map]
    exact (congrFun List.filterMap_eq_map accounts).symm

end Batch

end Harvest.Collect
