import Harvest.Proofs.Collect.Batch
import Harvest.Proofs.Collect.Run
import Harvest.Proofs.Collect.Site
import Harvest.Proofs.Store.Confined

/-!
What runs may write. In each of its turns a run writes to the source at its feed's address only, and
adds items that this source owns; all rows of other sources, and all items stored before, stay as they
are.
-/

namespace Harvest

namespace Store

variable {a b c store later : Store} {sourceType url : String}

theorem storeItem_confined {row : Source.Row} (found : store.sourceRowAt? sourceType url = some row)
    {draft : Item.Draft} (owner : draft.sourceId = row.id) :
    Confined sourceType url store (Collect.storeItem store draft).1 := by
  unfold Collect.storeItem
  cases done : store.insertItem draft with
  | error e => exact .refl store
  | ok answer =>
    obtain ⟨id, later⟩ := answer
    obtain ⟨-, rfl⟩ := insertItem_ok done
    refine ⟨rfl, fun row found => ⟨row, found, rfl⟩, _, rfl, fun item member => ?_⟩
    cases List.mem_singleton.mp member
    exact ⟨row, found, owner⟩

/-! ### Several writes -/

/-- Some writes lead from one store to another, and every item among them was fetched at an instant of
a kind. -/
def Written (fetched : Instant → Prop) (before after : Store) : Prop :=
  ∃ ops : List Operation, (∀ draft, .insertItem draft ∈ ops → fetched draft.fetchedAt) ∧
    after = ops.foldl Operation.apply before

namespace Written

variable {fetched : Instant → Prop}

theorem refl (store : Store) : Written fetched store store := ⟨[], fun _ => nofun, rfl⟩

theorem trans (first : Written fetched a b) (second : Written fetched b c) : Written fetched a c := by
  obtain ⟨ops, kind, rfl⟩ := first
  obtain ⟨ops', kind', rfl⟩ := second
  refine ⟨ops ++ ops', fun draft member => ?_, (List.foldl_append ..).symm⟩
  rcases List.mem_append.mp member with old | new
  · exact kind draft old
  · exact kind' draft new

theorem one {op : Operation} (kind : ∀ draft, op = .insertItem draft → fetched draft.fetchedAt) :
    Written fetched store (op.apply store) :=
  ⟨[op], fun draft member => kind draft (List.mem_singleton.mp member).symm, rfl⟩

theorem sound (written : Written fetched a b) (sound : a.Sound) : b.Sound ∧ Extends a b := by
  obtain ⟨ops, -, rfl⟩ := written
  exact applyAll_sound sound ops

theorem items (written : Written fetched a b) : a.items <+: b.items := by
  obtain ⟨ops, -, rfl⟩ := written
  exact a.applyAll_items ops

theorem refused (written : Written fetched a b) : b.refused = a.refused := by
  obtain ⟨ops, -, rfl⟩ := written
  clear * -
  induction ops generalizing a with
  | nil => rfl
  | cons op rest ih => exact ih.trans (a.apply_refused op)

end Written

theorem storeItem_eq (store : Store) (draft : Item.Draft) :
    (Collect.storeItem store draft).1 = (Operation.insertItem draft).apply store := by
  unfold Collect.storeItem
  cases done : store.insertItem draft with
  | error e => simp only [Operation.apply, done, Except.toOption, Option.map_none, Option.getD_none]
  | ok answer => simp only [Operation.apply, done, Except.toOption, Option.map_some, Option.getD_some]

end Store

namespace Collect

open Web (Activity Terms)

/-! ### Runs -/

namespace Job

variable {job : Job} {fetched : Instant → Prop} {clocks : Clocks} {before state : Store}

/-- What a run of the job may do to the store. -/
def Writes (job : Job) (fetched : Instant → Prop) (before after : Store) : Prop :=
  Store.Written fetched before after ∧
    (before.Sound → Store.Confined "rss" job.feed.url before after)

namespace Writes

variable {a b c : Store}

theorem refl (store : Store) : job.Writes fetched store store := ⟨.refl store, fun _ => .refl store⟩

theorem trans (first : job.Writes fetched a b) (second : job.Writes fetched b c) :
    job.Writes fetched a c :=
  ⟨first.1.trans second.1, fun sound => (first.2 sound).trans (second.2 (first.1.sound sound).1)⟩

end Writes

/-- Others may write what they like, and the run itself only to its own source. -/
def confining (fetched : Instant → Prop) (job : Job) : Terms Store where
  shown clocks := fetched clocks.now
  others := Store.Written fetched
  own := job.Writes fetched

/-- A run that has resolved its source finds it at the feed's address all along. -/
private structure Resolved (job : Job) (fetched : Instant → Prop) (source : Source) (clocks : Clocks)
    (before state : Store) : Prop where
  now : fetched clocks.now
  sound : before.Sound
  writes : job.Writes fetched before state
  row : ∃ row, state.sourceRowAt? "rss" job.feed.url = some row ∧ row.id = source.id

private theorem Resolved.stable {source : Source} :
    Activity.Stable ((job.confining fetched).resting fun _ => True) (job.Resolved fetched source) := by
  intro clocks before state resolved
  refine ⟨⟨resolved.writes, trivial⟩, fun clocks later shown written => ?_⟩
  obtain ⟨row, found, known⟩ := resolved.row
  obtain ⟨sound, grown⟩ := (resolved.writes.1.trans written).sound resolved.sound
  have since := (written.sound (resolved.writes.1.sound resolved.sound).1).2
  obtain ⟨now, found, origin⟩ := since.sourceRowAt? found
  exact ⟨shown, sound, .refl later, now, found, (congrArg (·.1) origin).trans known⟩

private theorem Resolved.write {source : Source}
    (resolved : job.Resolved fetched source clocks before state) (op : Store.Operation)
    (kind : ∀ draft, op = .insertItem draft → fetched draft.fetchedAt)
    (confined : ∀ row, state.Sound → state.sourceRowAt? "rss" job.feed.url = some row →
      row.id = source.id → Store.Confined "rss" job.feed.url state (op.apply state)) :
    job.Resolved fetched source clocks before (op.apply state) := by
  obtain ⟨row, found, known⟩ := resolved.row
  have sound := (resolved.writes.1.sound resolved.sound).1
  have confined := confined row sound found known
  obtain ⟨now, found, origin⟩ := confined.source row found
  exact ⟨resolved.now, resolved.sound, resolved.writes.trans ⟨.one kind, fun _ => confined⟩, now, found,
    (congrArg (·.1) origin).trans known⟩

private theorem carries_resolved (job : Job) (fetched : Instant → Prop) (begun : Instant) :
    job.Carries ((job.confining fetched).resting fun _ => True) begun (job.Resolved fetched)
      (fun _ before state _ => (job.confining fetched).own before state ∧ True) := by
  refine ⟨fun _ => Resolved.stable, ?_, ?_, ?_⟩
  · intro source entry address content clocks before state resolved
    refine Job.submit_ensures ⟨resolved.writes, trivial⟩ (fun _ => resolved) fun fresh => ?_
    rw [Store.storeItem_eq]
    refine resolved.write _ (fun draft same => ?_) fun row sound found known => ?_
    · cases same
      exact resolved.now
    · rw [← Store.storeItem_eq]
      exact Store.storeItem_confined found known.symm
  · intro source clocks before state later r resolved noted _
    have same : later = (Store.Operation.recordSuccess source.id
        (advanceWatermark source.watermark begun) clocks.now).apply state := by
      rw [Store.Operation.apply, noted]
      rfl
    rw [same]
    refine ⟨(resolved.write _ (by rintro _ ⟨⟩) fun row sound found known => ?_).writes, trivial⟩
    rw [← same]
    rw [← known] at noted
    exact Store.updateSource_confined sound found (Source.Row.succeed_origin _ _) noted
  · intro source clocks before state fault r resolved _
    refine ⟨(resolved.write (.recordFailure source.id (Store.clipError fault.message) clocks.now)
      (by rintro _ ⟨⟩) fun row sound found known => ?_).writes, trivial⟩
    rw [← known, Store.Operation.apply]
    cases noted : state.recordFailure row.id (Store.clipError fault.message) clocks.now with
    | error e => exact .refl state
    | ok later => exact Store.updateSource_confined sound found (Source.Row.fail_origin _ _) noted

private theorem run_confined (sound : state.Sound) (now : fetched clocks.now) :
    job.run.Ensures ((job.confining fetched).resting fun _ => True)
      (fun _ before state _ => (job.confining fetched).own before state ∧ True) clocks state state := by
  have writes (later : Store) (outcome : Except Store.Error Source)
      (done : state.upsertSource clocks.now job.sourceDraft = (later, outcome)) :
      job.Writes fetched state later := by
    have same : later = (Store.Operation.upsertSource clocks.now job.sourceDraft).apply state := by
      rw [Store.Operation.apply, done]
    rw [same]
    exact ⟨.one (by rintro _ ⟨⟩), fun sound => Store.upsertSource_confined sound clocks.now job.sourceDraft⟩
  refine Job.run_ensures (job.carries_resolved fetched clocks.now) (fun source later done => ?_)
    fun e later r done _ => ⟨writes later _ done, trivial⟩
  obtain ⟨-, row, found, read⟩ := Store.upsertSource_ok done
  exact ⟨now, sound, writes later _ done, row, found, (Store.read_id read).symm⟩

private theorem performed_own {terms : Terms Store} {result : Clocks → Store → Store → Report → Prop}
    {activity : Activity Store Report} (session : Web.Session)
    (still : ∀ store, terms.others store store)
    (trans : ∀ {a b c}, terms.own a b → terms.own b c → terms.own a c)
    (shown : ∀ clocks : Clocks, clocks.now = session.clocks.now → terms.shown clocks)
    (kept : ∀ clocks before state report, result clocks before state report → terms.own before state)
    (ensures : activity.Ensures terms result session.clocks before state) :
    terms.own before (session.perform state activity).2.1 := by
  induction activity generalizing session before state with
  | done report => exact kept _ _ _ _ ensures
  | step write next ih => exact ih _ _ session shown ensures
  | await deadline wait next ih =>
    have now := session.answer_now deadline wait
    have ahead := ensures.2 (session.answer deadline wait).2 (session.answer deadline wait).1.clocks state
      (shown _ now) (still state)
    exact trans ensures.1 (ih _ _ (fun clocks same => shown clocks (same.trans now)) ahead)
  | crash => exact ensures

/-- A run that is performed alone writes as any run does. -/
theorem perform_writes (job : Job) (site : Site) (sound : site.store.Sound)
    (now : fetched site.session.clocks.now) :
    job.Writes fetched site.store (site.perform job.run).1.store := by
  have ensures := job.run_confined sound now
  refine (performed_own site.session ?_ ?_ ?_ (fun _ _ _ _ result => result) ensures).1
  · exact fun store => .refl store
  · exact fun first second => ⟨first.1.trans second.1, trivial⟩
  · intro clocks same
    change fetched clocks.now
    rw [same]
    exact now

end Job

namespace Batch

private def unpromising : Promise := ⟨fun _ _ _ _ => True, fun _ _ _ _ _ _ _ => True⟩

/-- Any runs at all can be done side by side as far as their writes are concerned. -/
theorem company_writes {store : Store} (sound : store.Sound) (fetched : Instant → Prop) (jobs : List Job) :
    Company store jobs (Job.confining fetched) (Store.Written fetched) unpromising where
  still _ _ := .refl
  trans _ _ _ _ _ := .trans
  apart := List.pairwise_of_forall fun _ _ _ _ => ⟨fun own => own.1, fun own => own.1⟩
  seen _ _ _ _ own := own.1
  observer_still := .refl
  observer_trans _ _ _ := .trans
  runs _ _ _ _ shown written := Job.run_confined (written.sound sound).1 shown

/-- In a batch every event is a turn of one run, which writes to its own source only. -/
theorem turn_writes {store : Store} (sound : store.Sound) (width : Nat) (jobs : List Job)
    (past : List (Clocks × Event)) (clocks : Clocks) (event : Event) :
    let b := (new store width jobs).afterAll past
    b.after clocks event = b ∨ ∃ job, jobs[b.turn event]? = some job ∧
      Store.Confined "rss" job.feed.url b.store (b.after clocks event).store := by
  intro b
  have company := company_writes sound (fun _ => True) jobs
  have keeping := company.keeping width past fun _ _ _ _ => trivial
  have now := (keeping.observed.sound sound).1
  rcases keeping.turn_own company clocks event fun _ _ => trivial with same | ⟨job, here, own⟩
  · exact Or.inl same
  · exact Or.inr ⟨job, here, own.2 now⟩

end Batch

end Collect

end Harvest
