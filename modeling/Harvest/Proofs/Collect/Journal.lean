import Harvest.Proofs.Collect.Run
import Harvest.Proofs.Store.Duplicate
import Harvest.Proofs.Store.Frame
import Mathlib.Data.List.Forall2

/-!
What is told of the entries of a run, and what the store has of them. A journal lists the entries that
were gone through, each with what became of it; the counters of a result count the journal, and the new
rows of the store are those of its stored entries, in the same order.
-/

namespace Harvest.Collect

/-- Entries in the order of their feed, each with what became of it. -/
abbrev Journal := List (Feed.Entry × Except Store.Error EntryOutcome)

namespace Journal

def entries (journal : Journal) : List Feed.Entry := journal.map (·.1)

/-- The entries that were stored, with the ids of their items. -/
def stored (journal : Journal) : List (Feed.Entry × Int) :=
  journal.filterMap fun
    | (entry, .ok (.stored id)) => some (entry, id)
    | _ => none

def skipped (journal : Journal) : List (Feed.Entry × SkipReason) :=
  journal.filterMap fun
    | (entry, .ok (.skipped reason)) => some (entry, reason)
    | _ => none

def faults (journal : Journal) : List (Feed.Entry × Store.Error) :=
  journal.filterMap fun
    | (entry, .error e) => some (entry, e)
    | _ => none

/-- The texts that entries leave in the errors of a run. -/
def errors (journal : Journal) : List String :=
  journal.faults.map fun fault => fault.1.label ++ ": " ++ (Fault.store fault.2).message

theorem length_eq (journal : Journal) :
    journal.length = journal.stored.length + journal.skipped.length + journal.faults.length := by
  induction journal with
  | nil => rfl
  | cons first rest ih =>
    match first with
    | (entry, .ok (.stored id)) => simp [stored, skipped, faults] at ih ⊢; omega
    | (entry, .ok (.skipped reason)) => simp [stored, skipped, faults] at ih ⊢; omega
    | (entry, .error e) => simp [stored, skipped, faults] at ih ⊢; omega

end Journal

/-- A result after the entries of a journal. -/
def RunResult.tallied (r : RunResult) (journal : Journal) : RunResult :=
  { r with
    fetched := r.fetched + journal.length
    stored := r.stored + journal.stored.length
    skipped := r.skipped + journal.skipped.length
    errors := r.errors ++ journal.errors }

theorem RunResult.tallied_nil (r : RunResult) : r.tallied [] = r := by
  simp [tallied, Journal.stored, Journal.skipped, Journal.errors, Journal.faults]

theorem RunResult.tallied_cons (r : RunResult) (entry : Feed.Entry)
    (outcome : Except Store.Error EntryOutcome) (rest : Journal) : r.tallied ((entry, outcome) :: rest) =
      (Job.count entry outcome { r with fetched := r.fetched + 1 }).tallied rest := by
  match outcome with
  | .ok (.stored id) =>
    simp [tallied, Job.count, Journal.stored, Journal.skipped, Journal.errors, Journal.faults]
    omega
  | .ok (.skipped reason) =>
    simp [tallied, Job.count, Journal.stored, Journal.skipped, Journal.errors, Journal.faults]
    omega
  | .error e =>
    simp [tallied, Job.count, recordEntryError, Journal.stored, Journal.skipped, Journal.errors,
      Journal.faults]
    omega

/-- A result when the time ran out during one more entry. -/
def RunResult.interrupted (r : RunResult) : RunResult := { r with fetched := r.fetched + 1 }

/-! ### In the store -/

/-- A row is that of an entry which was stored for a source. -/
structure StandsFor (sourceId : Option Int) (stored : Feed.Entry × Int) (row : Item.Row) : Prop where
  id : row.id = stored.2
  owner : sourceId = some row.sourceId
  address : stored.1.address? = some row.externalId

/-- What became of an entry shows in the store: a stored entry has a row at the end of the table, and
any other leaves no trace. -/
def Shows (sourceId : Int) (entry : Feed.Entry) (outcome : Except Store.Error EntryOutcome)
    (earlier later : Store) : Prop :=
  match outcome with
  | .ok (.stored id) => id = earlier.lastItemId + 1 ∧ ∃ row, StandsFor (some sourceId) (entry, id) row ∧
      later = { earlier with items := earlier.items ++ [row], lastItemId := id }
  | _ => later = earlier

/-- Between two stores lie the rows of a journal, and no other changes to the items or to sources. -/
structure Journal.Posted (sourceId : Int) (journal : Journal) (rows : List Item.Row)
    (earlier later : Store) : Prop where
  items : later.items = earlier.items ++ rows
  sources : later.sources = earlier.sources
  stands : List.Forall₂ (StandsFor (some sourceId)) journal.stored rows
  growing : (earlier.lastItemId :: rows.map (·.id)).Pairwise (· < ·)

namespace Journal.Posted

variable {sourceId : Int} {earlier middle later : Store}

theorem nil (store : Store) : Posted sourceId [] [] store store :=
  ⟨(List.append_nil _).symm, rfl, .nil, List.pairwise_singleton _ _⟩

theorem cons {entry : Feed.Entry} {outcome : Except Store.Error EntryOutcome} {rest : Journal}
    {rows : List Item.Row} (shows : Shows sourceId entry outcome earlier middle)
    (posted : Posted sourceId rest rows middle later) :
    ∃ rows, Posted sourceId ((entry, outcome) :: rest) rows earlier later := by
  match outcome with
  | .ok (.stored id) =>
    obtain ⟨next, row, stands, rfl⟩ := shows
    refine ⟨row :: rows, ?_, posted.sources, ?_, ?_⟩
    · rw [posted.items, List.append_assoc]
      rfl
    · exact .cons stands posted.stands
    · have here : earlier.lastItemId < row.id := by
        rw [stands.id, next]
        omega
      have ahead : (row.id :: rows.map (·.id)).Pairwise (· < ·) := stands.id ▸ posted.growing
      refine List.pairwise_cons.mpr ⟨fun id member => ?_, ahead⟩
      rcases List.mem_cons.mp member with same | behind
      · exact same ▸ here
      · exact Int.lt_trans here (List.rel_of_pairwise_cons ahead behind)
  | .ok (.skipped _) =>
    cases shows
    exact ⟨rows, posted.items, posted.sources, posted.stands, posted.growing⟩
  | .error _ =>
    cases shows
    exact ⟨rows, posted.items, posted.sources, posted.stands, posted.growing⟩

end Journal.Posted

end Harvest.Collect
