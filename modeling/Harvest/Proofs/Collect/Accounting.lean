import Harvest.Proofs.Collect.Batch
import Harvest.Proofs.Collect.Passage

/-!
What a run tells of its entries and what the store has of them. The counters of the report count a journal
of the entries, and the new rows of the store are those of its stored entries. This holds wherever the run
was cut off.
-/

namespace Harvest.Collect

namespace Job

variable {job : Job} {site : Site} {sourceId : Int}

/-- The new items after a run: one for each stored entry, in the order of the feed, with growing ids,
and all owned by the source at the feed's address. -/
structure Keeps (job : Job) (sourceId : Option Int) (journal : Journal) (rows : List Item.Row)
    (earlier later : Store) : Prop where
  items : later.items = earlier.items ++ rows
  stands : List.Forall₂ (StandsFor sourceId) journal.stored rows
  growing : (rows.map (·.id)).Pairwise (· < ·)
  source : ∀ id, sourceId = some id → (later.sourceRowAt? "rss" job.feed.url).map (·.id) = some id

/-- What a report says of the entries of a run that ended in a fault or in none, by the journal of the
run. -/
structure Accounts (job : Job) (site : Site) (fault : Option Fault) (journal : Journal) (r : RunResult) :
    Prop where
  failure : r.failure = fault.map (·.kind)
  errors : r.errors = journal.errors ++ (fault.map (·.report)).toList
  stored : r.stored = journal.stored.length
  skipped : r.skipped = journal.skipped.length
  /-- Without a fault, all entries of the feed up to the limit were gone through. -/
  whole : fault = none → ∃ feed, job.Finds site feed ∧ journal.entries = job.taken feed ∧
    r.fetched = min (job.feed.itemLimit job.config.settings) feed.entries.length ∧
    r.fetched = r.stored + r.skipped + journal.faults.length
  /-- When the time ran out, the run was still without entries, or during one of them. -/
  late : fault = some job.timeoutFault → (r.fetched = 0 ∧ journal = []) ∨
    (r.fetched = r.stored + r.skipped + journal.faults.length + 1 ∧
      ∃ feed entry, job.Finds site feed ∧ journal.entries ++ [entry] <+: job.taken feed)
  /-- After any other fault there are no entries. -/
  failed : ∀ other, fault = some other → other ≠ job.timeoutFault →
    r.fetched = 0 ∧ r.stored = 0 ∧ r.skipped = 0 ∧ journal = []

/-- A run that fails before its first entry has none to account for. -/
private theorem Accounts.nothing {fault : Fault} {r : RunResult} (tells : r.Tells (some fault) [] 0) :
    job.Accounts site (some fault) [] r :=
  ⟨tells.failure, tells.errors, tells.stored, tells.skipped, nofun, fun _ => Or.inl ⟨tells.fetched, rfl⟩,
    fun _ _ _ => ⟨tells.fetched, tells.stored, tells.skipped, rfl⟩⟩

end Job

/-- A job that has one second. -/
def briefJob : Job :=
  { plainJob "http://f.example/" [] with
    config := { (plainJob "http://f.example/" []).config with
      collection := { Config.Collection.standard with feedTimeoutSeconds := 1 } } }

/-- A web with a feed of three entries: one without a page, one without an address, and one whose page
stalls. -/
def stallingSite : Site :=
  let document := "\x7b\"version\":\"https://jsonfeed.org/version/1\",\"title\":\"W\",\"items\":[" ++
    "\x7b\"id\":\"http://f.example/a\",\"title\":\"A\"\x7d,\x7b\"id\":\"b\"\x7d," ++
    "\x7b\"id\":\"http://f.example/c\",\"title\":\"C\"\x7d]\x7d"
  let web := Web.Script.new true [("http://f.example/", [⟨200, [], Text.Utf8.encodeText document, none⟩]),
    ("http://f.example/c", [⟨200, [], [], some (.stall Web.nanosPerSecond)⟩])]
  ⟨⟨⟨.epoch, 0⟩, .new 0, 1, web, true, []⟩, .empty⟩

end Harvest.Collect
