import Harvest.Proofs.Collect.Accounting
import Harvest.Proofs.Collect.Confinement
import Harvest.Proofs.Collect.Intake
import Harvest.Proofs.Collect.Separation
import Harvest.Proofs.Store.Declining

/-!
A feed that is collected again. A run without errors leaves a store that declines all it has read, be it
for an item of its own, for one of another source, or for an item it found there; and a store goes on to
decline it, so that a second run over the same web stores nothing.
-/

namespace Harvest

namespace Store

variable {a b store resolved : Store}

theorem Written.dated {fetched : Instant → Prop} (written : Written fetched a b) (dated : a.Dated fetched) :
    b.Dated fetched := by
  obtain ⟨ops, kind, rfl⟩ := written
  induction ops generalizing a with
  | nil => exact dated
  | cons op rest ih =>
    have first := dated.apply op fun draft is => kind draft (is ▸ List.mem_cons_self)
    exact ih first fun draft member => kind draft (List.mem_cons_of_mem _ member)

end Store

namespace Collect

namespace Job

variable {job : Job} {now : Instant} {sourceId : Int} {store later : Store} {entry : Feed.Entry}
  {address content : String} {fetched : Instant → Prop}

/-! ### Passes over the readings -/

/-- The store declines everything that was read of some entries. -/
def Declined (job : Job) (now : Instant) (sourceId : Int) (store : Store)
    (readings : List (Feed.Entry × Reading)) : Prop :=
  ∀ entry address content, (entry, .ok (address, content)) ∈ readings →
    store.Declines now job.config.collection.dedupWindowDays sourceId ⟨address, address, contentHash content⟩

theorem handle_written (is : fetched now) (reading : Reading) :
    Store.Written fetched store (job.handle now sourceId store entry reading).1 := by
  unfold handle
  split
  · exact .refl store
  · split
    · exact .refl store
    · rw [Store.storeItem_eq]
      refine .one fun draft same => ?_
      cases same
      exact is

theorem handleAll_written (is : fetched now) (readings : List (Feed.Entry × Reading)) :
    Store.Written fetched store (job.handleAll now sourceId store readings).1 := by
  induction readings generalizing store with
  | nil => exact .refl store
  | cons first rest ih => exact (handle_written is first.2).trans ih

/-- Whatever became of an entry, unless it was an error, the store declines it from then on. -/
theorem handle_declines {outcome : EntryOutcome}
    (handled : job.handle now sourceId store entry (.ok (address, content)) = (later, .ok outcome)) :
    later.Declines now job.config.collection.dedupWindowDays sourceId
      ⟨address, address, contentHash content⟩ := by
  unfold handle at handled
  dsimp only at handled
  split at handled
  next duplicate found =>
    cases handled
    exact Or.inl ⟨duplicate, found⟩
  · exact Or.inr (Store.storeItem_ok handled)

theorem handle_of_declines (declines : store.Declines now job.config.collection.dedupWindowDays sourceId
    ⟨address, address, contentHash content⟩) : ∃ reason,
      job.handle now sourceId store entry (.ok (address, content)) = (store, .ok (.skipped reason)) := by
  unfold handle
  dsimp only
  rcases declines with ⟨duplicate, found⟩ | ⟨accepted, present⟩
  · rw [found]
    exact ⟨_, rfl⟩
  · split
    · exact ⟨_, rfl⟩
    · exact ⟨_, Store.storeItem_present accepted present⟩

/-- A pass without errors leaves a store that declines all of its entries. -/
theorem handleAll_declines {readings : List (Feed.Entry × Reading)}
    (clean : (job.handleAll now sourceId store readings).2.errors = []) :
    job.Declined now sourceId (job.handleAll now sourceId store readings).1 readings := by
  induction readings generalizing store with
  | nil => exact fun _ _ _ => nofun
  | cons first rest ih =>
    obtain ⟨entry, reading⟩ := first
    rw [handleAll] at clean ⊢
    cases handled : job.handle now sourceId store entry reading with
    | mk later outcome =>
    rw [handled] at clean
    dsimp only at clean ⊢
    cases outcome with
    | error e => simp [Journal.errors, Journal.faults] at clean
    | ok outcome =>
      have others : (job.handleAll now sourceId later rest).2.errors = [] := by
        cases outcome with
        | stored id => exact clean
        | skipped reason => exact clean
      intro other address content member
      rcases List.mem_cons.mp member with here | behind
      · cases here
        -- The rest of the pass only adds to the store, which does not end the refusal.
        have grown : Store.Written (fun _ => True) later (job.handleAll now sourceId later rest).1 :=
          handleAll_written trivial rest
        exact (handle_declines handled).grown grown.items grown.refused
      · exact ih others other address content behind

/-- A pass over entries that are all declined changes nothing. -/
theorem handleAll_of_declined {readings : List (Feed.Entry × Reading)}
    (declined : job.Declined now sourceId store readings) : ∃ journal,
      job.handleAll now sourceId store readings = (store, journal) ∧ journal.stored = [] ∧
        journal.faults = [] := by
  induction readings with
  | nil => exact ⟨[], rfl, rfl, rfl⟩
  | cons first rest ih =>
    obtain ⟨entry, reading⟩ := first
    obtain ⟨journal, unchanged, stored, faults⟩ :=
      ih fun other address content member => declined other address content (List.mem_cons_of_mem _ member)
    obtain ⟨reason, skipped⟩ : ∃ reason,
        job.handle now sourceId store entry reading = (store, .ok (.skipped reason)) := by
      match reading with
      | .error reason => exact ⟨reason, rfl⟩
      | .ok (address, content) => exact handle_of_declines (declined entry address content List.mem_cons_self)
    refine ⟨(entry, .ok (.skipped reason)) :: journal, ?_, stored, faults⟩
    rw [handleAll, skipped]
    dsimp only
    rw [unchanged]

/-! ### Two runs -/

variable {site : Site} {source : Source} {readings : List (Feed.Entry × Reading)} {journal : Journal}
  {r : RunResult}

/-- After a run without errors its source is where its feed is, and all that was read is declined. -/
private theorem TookIn.declined (took : job.TookIn site source readings journal r later)
    (sound : site.store.Sound) (clean : r.errors = []) :
    job.Declined site.session.clocks.now source.id later readings ∧
      ∃ row, later.sourceRowAt? "rss" job.feed.url = some row ∧ row.id = source.id := by
  obtain ⟨resolved, taken, mark, done, handled, noted⟩ := took.handled
  have clean : (job.handleAll site.session.clocks.now source.id resolved readings).2.errors = [] := by
    rw [handled, ← took.errors, clean]
  have declined := handleAll_declines clean
  rw [handled] at declined
  refine ⟨fun entry address content member => ?_, ?_⟩
  · refine (declined entry address content member).grown ?_ (Store.updateSource_refused noted)
    rw [Store.updateSource_items noted]
  · have resolvedSound := (Store.apply_sound sound (.upsertSource site.session.clocks.now job.sourceDraft)).1
    rw [Store.Operation.apply, done] at resolvedSound
    have written : Store.Written (fun _ => True) resolved
        (job.handleAll site.session.clocks.now source.id resolved readings).1 := handleAll_written trivial readings
    rw [handled] at written
    obtain ⟨takenSound, grown⟩ := written.sound resolvedSound
    have noting := (Store.updateSource_sound takenSound (Source.Row.succeed_origin _ _) noted).2
    obtain ⟨-, row, found, read⟩ := Store.upsertSource_ok done
    obtain ⟨last, found, origin⟩ := (grown.trans noting).sourceRowAt? found
    exact ⟨last, found, (congrArg (·.1) origin).trans (Store.read_id read).symm⟩

/-- A run whose readings are all declined when it begins stores nothing. -/
private theorem TookIn.unchanged (took : job.TookIn site source readings journal r later)
    (declined : job.Declined site.session.clocks.now source.id site.store readings) :
    r.stored = 0 ∧ r.skipped = r.fetched ∧ r.errors = [] ∧ later.items = site.store.items := by
  obtain ⟨resolved, taken, mark, done, handled, noted⟩ := took.handled
  have items := site.store.upsertSource_items site.session.clocks.now job.sourceDraft
  have refused := site.store.upsertSource_refused site.session.clocks.now job.sourceDraft
  rw [done] at items refused
  have declined : job.Declined site.session.clocks.now source.id resolved readings := by
    intro entry address content member
    refine (declined entry address content member).grown ?_ refused
    rw [items]
  obtain ⟨journal', unchanged, stored, faults⟩ := handleAll_of_declined declined
  cases handled.symm.trans unchanged
  have all := journal.length_eq
  rw [stored, faults] at all
  refine ⟨?_, ?_, ?_, ?_⟩
  · rw [took.stored, stored]
    rfl
  · rw [took.skipped, took.fetched, all]
    simp
  · rw [took.errors, Journal.errors, faults]
    rfl
  · rw [Store.updateSource_items noted, items]

end Job

end Collect

end Harvest
