import Harvest.Proofs.Collect.Ledger
import Harvest.Report.Batch
import Mathlib.Algebra.BigOperators.Group.List.Basic

/-!
The totals of a batch. Summaries add up, so that totals depend neither on the order of the results nor on how
they are grouped; and the totals of a batch agree with what its runs went through and with what the store has
gained, in whatever order the runs went on.
-/

namespace Harvest.Report

open Collect (Batch Collector Job Report RunAccount RunResult)

namespace BatchSummary

/-! ### Summaries add up -/

/-- The summary of two batches together. -/
instance : Add BatchSummary where
  add s t :=
    { feeds := s.feeds + t.feeds
      succeeded := s.succeeded + t.succeeded
      transientFailures := s.transientFailures + t.transientFailures
      terminalFailures := s.terminalFailures + t.terminalFailures
      fetched := s.fetched + t.fetched
      stored := s.stored + t.stored
      skipped := s.skipped + t.skipped
      entryErrors := s.entryErrors + t.entryErrors }

instance : Zero BatchSummary := ⟨empty⟩

theorem add_def (s t : BatchSummary) : s + t =
    ⟨s.feeds + t.feeds, s.succeeded + t.succeeded, s.transientFailures + t.transientFailures,
      s.terminalFailures + t.terminalFailures, s.fetched + t.fetched, s.stored + t.stored,
      s.skipped + t.skipped, s.entryErrors + t.entryErrors⟩ := rfl

theorem zero_def : (0 : BatchSummary) = ⟨0, 0, 0, 0, 0, 0, 0, 0⟩ := rfl

instance : AddCommMonoid BatchSummary where
  add_assoc s t u := by simp only [add_def, Nat.add_assoc]
  zero_add s := by simp only [add_def, zero_def, Nat.zero_add]
  add_zero s := by simp only [add_def, zero_def, Nat.add_zero]
  add_comm s t := by simp only [add_def, Nat.add_comm]
  nsmul := nsmulRec

/-- One feed alone. -/
def ofResult (r : RunResult) : BatchSummary := empty.add r

theorem add_eq (s : BatchSummary) (r : RunResult) : s.add r = s + ofResult r := by
  simp only [ofResult, add, add_def, empty, Nat.zero_add]

theorem ofResults_eq (results : List RunResult) : ofResults results = (results.map ofResult).sum := by
  have front (s : BatchSummary) : results.foldl add s = s + (results.map ofResult).sum := by
    induction results generalizing s with
    | nil => exact (add_zero s).symm
    | cons r rest ih =>
      rw [List.foldl_cons, ih, add_eq, add_assoc]
      rfl
  exact (front 0).trans (zero_add _)

theorem ofResults_append (front back : List RunResult) :
    ofResults (front ++ back) = ofResults front + ofResults back := by
  simp only [ofResults_eq, List.map_append, List.sum_append]

theorem ofResults_perm {results others : List RunResult} (same : results.Perm others) :
    ofResults results = ofResults others := by
  simp only [ofResults_eq]
  exact (same.map ofResult).sum_eq

theorem ofResults_cons (r : RunResult) (rest : List RunResult) :
    ofResults (r :: rest) = ofResult r + ofResults rest := by
  simp only [ofResults_eq, List.map_cons, List.sum_cons]

/-- Every feed is counted as a success or as one kind of failure. -/
theorem ofResults_feeds (results : List RunResult) : (ofResults results).feeds = results.length ∧
    results.length = (ofResults results).succeeded + (ofResults results).transientFailures +
      (ofResults results).terminalFailures := by
  induction results with
  | nil => exact ⟨rfl, rfl⟩
  | cons r rest ih =>
    obtain ⟨feeds, parts⟩ := ih
    have one : (ofResult r).feeds = 1 ∧ (ofResult r).succeeded + (ofResult r).transientFailures +
        (ofResult r).terminalFailures = 1 := by
      unfold ofResult add empty
      match r.failure with
      | none => exact ⟨rfl, rfl⟩
      | some .transient => exact ⟨rfl, rfl⟩
      | some .terminal => exact ⟨rfl, rfl⟩
    rw [ofResults_cons, add_def, List.length_cons]
    dsimp only
    omega

/-! ### What the runs went through -/

/-- A failure as a whole leaves one text among the errors of a run, and every other is that of an entry. -/
private theorem errors_length (account : RunAccount) : account.report.result.errors.length =
    account.journal.faults.length + if account.report.result.failure.isSome then 1 else 0 := by
  rw [account.tells.errors, account.tells.failure, List.length_append, Collect.Journal.errors, List.length_map]
  cases account.fault with
  | none => rfl
  | some _ => rfl

private theorem ofResult_account (account : RunAccount) :
    (ofResult account.report.result).stored = account.journal.stored.length ∧
      (ofResult account.report.result).entryErrors = account.journal.faults.length ∧
      (ofResult account.report.result).fetched = account.journal.stored.length +
        account.journal.skipped.length + account.journal.faults.length +
          (if account.timedOutWithin then 1 else 0) ∧
      (ofResult account.report.result).skipped = account.journal.skipped.length := by
  have errors := errors_length account
  have tells := account.tells
  refine ⟨?_, ?_, ?_, ?_⟩
  · exact (Nat.zero_add _).trans tells.stored
  · simp only [ofResult, add, empty, errors, Nat.zero_add, Nat.add_sub_cancel]
  · simp only [ofResult, add, empty, tells.fetched, account.journal.length_eq, Nat.zero_add, Job.begun,
      RunAccount.timedOutWithin, decide_eq_true_eq]
  · exact (Nat.zero_add _).trans tells.skipped

/-- The totals of a batch agree with the accounts of its runs and with the growth of the items between two
stores. -/
structure Agrees (earlier later : Store) (jobs : List Job) (reports : List Report) : Prop where
  /-- Taking the failure as a whole from the errors of a run never stops at zero. -/
  errors : ∀ report ∈ reports, (if report.result.failure.isSome then 1 else 0) ≤ report.result.errors.length
  accounts : ∃ accounts : List RunAccount, accounts.map (·.job) = jobs ∧ accounts.map (·.report) = reports ∧
    let totals := ofResults (reports.map (·.result))
    later.countItems = earlier.countItems + totals.stored ∧
    totals.entryErrors = (accounts.map (·.journal.faults.length)).sum ∧
    totals.fetched = totals.stored + totals.skipped + totals.entryErrors +
      accounts.countP (·.timedOutWithin)

private theorem ofResults_accounts (accounts : List RunAccount) :
    let totals := ofResults (accounts.map (·.report.result))
    totals.stored = (accounts.map (·.journal.stored.length)).sum ∧
    totals.entryErrors = (accounts.map (·.journal.faults.length)).sum ∧
    totals.fetched = totals.stored + totals.skipped + totals.entryErrors +
      accounts.countP (·.timedOutWithin) := by
  induction accounts with
  | nil => exact ⟨rfl, rfl, rfl⟩
  | cons account rest ih =>
    obtain ⟨stored, errors, fetched⟩ := ih
    obtain ⟨stored', errors', fetched', skipped'⟩ := ofResult_account account
    simp only [List.map_cons, ofResults_cons, add_def, List.sum_cons, List.countP_cons]
    refine ⟨?_, ?_, ?_⟩
    · rw [stored', stored]
    · rw [errors', errors]
    · omega

private theorem agrees_of_accounts {earlier later : Store} {jobs : List Job} {reports : List Report}
    {accounts : List RunAccount} (of : accounts.map (·.job) = jobs) (tell : accounts.map (·.report) = reports)
    (items : later.countItems = earlier.countItems + (accounts.map (·.journal.stored.length)).sum) :
    Agrees earlier later jobs reports := by
  refine ⟨fun report member => ?_, accounts, of, tell, ?_⟩
  · rw [← tell] at member
    obtain ⟨account, -, rfl⟩ := List.mem_map.mp member
    rw [errors_length account]
    exact Nat.le_add_left _ _
  · obtain ⟨stored, errors, fetched⟩ := ofResults_accounts accounts
    rw [← tell, List.map_map]
    exact ⟨stored ▸ items, errors, fetched⟩

/-- The totals agree with what happened, in any course of events that ends a batch and whenever a collection
hands out its results; it does so if the window of duplicates reaches back to a date. -/
theorem batch_totals_agree :
    (∀ front back : List RunResult, ofResults (front ++ back) = ofResults front + ofResults back) ∧
    (∀ results others : List RunResult, results.Perm others → ofResults results = ofResults others) ∧
    (∀ results : List RunResult, let totals := ofResults results
      totals.feeds = results.length ∧
        totals.feeds = totals.succeeded + totals.transientFailures + totals.terminalFailures) ∧
    (∀ (store : Store) (width : Nat) (jobs : List Job) (events : List (Clocks × Batch.Event)),
      let b := (Batch.new store width jobs).afterAll events
      b.isOver = true → Agrees store b.store jobs b.reports) ∧
    ∀ c : Collector,
      (∀ later results, c.collectEnabled = (later, some results) → ∃ reports : List Report,
        results = reports.map (·.result) ∧ Agrees c.site.store later.site.store c.enabledJobs reports) ∧
      (c.ReachesAt c.site.session.clocks.now → ∃ later results, c.collectEnabled = (later, some results)) := by
  have whole (store : Store) (width : Nat) (jobs : List Job) (events : List (Clocks × Batch.Event))
      (ended : ((Batch.new store width jobs).afterAll events).isOver = true) :
      Agrees store ((Batch.new store width jobs).afterAll events).store jobs
        ((Batch.new store width jobs).afterAll events).reports := by
    have shared := (Batch.Shared.new store width jobs).afterAll events
    obtain ⟨accounts, of, tell, items⟩ := shared.accounts ended
    exact agrees_of_accounts of tell items
  refine ⟨ofResults_append, fun _ _ => ofResults_perm, fun results => ?_, whole, fun c => ⟨?_, fun reach => ?_⟩⟩
  · obtain ⟨feeds, parts⟩ := ofResults_feeds results
    exact ⟨feeds, feeds.trans parts⟩
  · intro later results collected
    unfold Collector.collectEnabled at collected
    generalize came : c.site.collect _ _ = ended at collected
    obtain ⟨site, _ | reports⟩ := ended
    · cases collected
    · cases collected
      obtain ⟨events, -, ended, store, rfl⟩ := Batch.endsWith_of_collect came
      exact ⟨_, rfl, store ▸ whole _ _ _ events ended⟩
  · obtain ⟨later, results, collected, -⟩ := c.collectEnabled_reports reach
    exact ⟨later, results, collected⟩

/-- A collector of two feeds. The first is gone. The second has four entries: one without a page, one without an
address, one that the store refuses, and one whose page stalls until the time of the feed is over. -/
def unevenFeeds : Collector :=
  let document := "\x7b\"version\":\"https://jsonfeed.org/version/1\",\"title\":\"W\",\"items\":[" ++
    "\x7b\"id\":\"http://g.example/a\",\"title\":\"A\"\x7d,\x7b\"id\":\"b\"\x7d," ++
    "\x7b\"id\":\"http://g.example/x\",\"title\":\"X\"\x7d," ++
    "\x7b\"id\":\"http://g.example/c\",\"title\":\"C\"\x7d]\x7d"
  let web := Web.Script.new true [("http://g.example/", [⟨200, [], Text.Utf8.encodeText document, none⟩]),
    ("http://g.example/c", [⟨200, [], [], some (.stall Web.nanosPerSecond)⟩])]
  let feeds := [{ Collect.plainFeed "http://f.example/" [] with name := "Gone" },
    Collect.plainFeed "http://g.example/" []]
  { live := .ofConfig ⟨1, .standard, { Config.Collection.standard with feedTimeoutSeconds := 1 }, feeds⟩
    site := ⟨⟨⟨.epoch, 0⟩, .new 0, 1, web, true, []⟩, (Store.History.new ["/x"]).store⟩
    maxRetries := 0 }

set_option maxRecDepth 10000 in
theorem batch_totals_agree_uneven :
    unevenFeeds.ReachesAt unevenFeeds.site.session.clocks.now ∧
      unevenFeeds.collectEnabled.2.map ofResults = some ⟨2, 0, 1, 1, 4, 1, 1, 1⟩ ∧
      ∃ (later : Collector) (reports : List Report),
        unevenFeeds.collectEnabled = (later, some (reports.map (·.result))) ∧
        Agrees unevenFeeds.site.store later.site.store unevenFeeds.enabledJobs reports := by
  have reach : unevenFeeds.ReachesAt unevenFeeds.site.session.clocks.now := by
    unfold Collector.ReachesAt
    decide +kernel
  obtain ⟨-, -, -, -, agrees⟩ := batch_totals_agree
  obtain ⟨later, results, collected⟩ := (agrees unevenFeeds).2 reach
  obtain ⟨reports, rfl, agree⟩ := (agrees unevenFeeds).1 later results collected
  exact ⟨reach, by decide +kernel, later, reports, collected, agree⟩

end BatchSummary

end Harvest.Report
