import Harvest.Proofs.Collect.Entry
import Harvest.Proofs.Collect.Hearing
import Harvest.Proofs.Collect.Separation
import Harvest.Proofs.Web.Heard

/-!
Where items come from. Every item that runs have stored renders an entry of a feed that one of them was told,
in whatever company the run was and whatever else was answered; and nothing that is stored later changes it.
-/

namespace Harvest

/-- Every item of the store is one of those allowed. -/
def Store.HasOnly (allowed : Item.Row → Prop) (store : Store) : Prop := ∀ row ∈ store.items, allowed row

theorem Store.HasOnly.of_items {allowed : Item.Row → Prop} {store later : Store} (only : store.HasOnly allowed)
    (same : later.items = store.items) : later.HasOnly allowed := by
  unfold HasOnly
  rwa [same]

namespace Collect

open Web (Activity Request Reply)

variable {heard : Request → Reply → Prop} {kept : Store → Prop}

/-! ### Parts of a run -/

namespace Work

variable {α β : Type} {result : α → Prop}

/-- From whatever progress a part of a run starts, it draws on what is heard; its kind of result is that of
an outcome without a fault. -/
def DrawsOn (heard : Request → Reply → Prop) (kept : Store → Prop) (result : α → Prop) (work : Work α) : Prop :=
  ∀ progress, (work.activity progress).DrawsOn heard kept fun ended => ∀ a, ended.1 = .ok a → result a

theorem drawsOn_bind {first : α → Prop} {result : β → Prop} {work : Work α} {next : α → Work β}
    (draws : work.DrawsOn heard kept first) (onward : ∀ a, first a → (next a).DrawsOn heard kept result) :
    (work >>= next).DrawsOn heard kept result := by
  intro progress
  rw [activity_bind, Activity.drawsOn_bind]
  refine (draws progress).mono fun ended first => ?_
  obtain ⟨outcome, progress⟩ := ended
  cases outcome with
  | ok a => exact onward a (first a rfl) progress
  | error fault => exact nofun

theorem drawsOn_pure {a : α} (is : result a) : (pure a : Work α).DrawsOn heard kept result := by
  rintro progress b same
  cases same
  exact is

/-- Nothing comes after a fault. -/
theorem drawsOn_throw {result : β → Prop} {fault : Fault} {next : α → Work β} :
    ((throw fault : Work α) >>= next).DrawsOn heard kept result := by
  have thrown : (throw fault : Work α).DrawsOn heard kept fun _ => False := fun _ => nofun
  exact drawsOn_bind thrown fun _ => False.elim

theorem drawsOn_enter {target : Stage} : (enter target).DrawsOn heard kept fun _ => True := by
  intro progress
  rw [activity_enter]
  exact fun _ _ => trivial

theorem drawsOn_tally {change : RunResult → RunResult} : (tally change).DrawsOn heard kept fun _ => True :=
  fun _ _ _ => trivial

theorem drawsOn_clocks : Work.clocks.DrawsOn heard kept fun _ => True :=
  fun _ _ _ => ⟨id, fun _ _ => trivial⟩

theorem drawsOn_transact {change : Clocks → Store → Store × Except Store.Error α}
    (keeps : ∀ clocks store, kept store → kept (change clocks store).1) :
    (transact change).DrawsOn heard kept fun _ => True := by
  intro progress
  rw [activity_transact]
  exact fun clocks store => ⟨keeps clocks store, fun _ _ => trivial⟩

theorem drawsOn_inTime {job : Job} {activity : Activity Store (Option α)}
    (draws : activity.DrawsOn heard kept fun outcome => ∀ a, outcome = some a → result a) :
    (job.inTime activity).DrawsOn heard kept result := by
  intro progress
  rw [activity_inTime, Activity.drawsOn_bind]
  refine draws.mono fun outcome is => ?_
  cases outcome with
  | none => exact nofun
  | some a =>
    rintro b same
    cases same
    exact is a rfl

end Work

namespace Job

/-- A row in which the job stores an entry. -/
structure Renders (job : Job) (entry : Feed.Entry) (row : Item.Row) : Prop where
  named : row.externalId = row.url
  address : entry.HasAddress row.url
  content : Text.Neat row.content
  hash : row.hash = Digest.Sha256.hexOfText row.content
  title : ∀ title, row.title = some title → Text.Neat title
  language : row.language = job.feed.language.or entry.language
  pending : row.status = ItemStatus.pending.name
  errorMessage : row.errorMessage = none

/-- A row that renders an entry, up to the limit, of a feed that stood in a reply to the job's request. -/
def Brings (job : Job) (heard : Request → Reply → Prop) (row : Item.Row) : Prop :=
  ∃ document feed entry, (job.fetching none).Brings heard job.feed.url document ∧
    Feed.read document.body = .ok feed ∧ entry ∈ job.taken feed ∧ job.Renders entry row

theorem itemDraft_renders {job : Job} {entry : Feed.Entry} {address content : String}
    (has : entry.HasAddress address) (neat : Text.Neat content) (id sourceId : Int) (now : Instant) :
    job.Renders entry (Item.Row.ofDraft id (job.itemDraft sourceId now entry address content)) where
  named := rfl
  address := has
  content := neat
  hash := rfl
  title title is := by
    obtain ⟨fragment, -, read⟩ := Option.bind_eq_some_iff.mp is
    exact Html.toText_neat read
  language := rfl
  pending := rfl
  errorMessage := rfl

variable {job : Job} {allowed : Item.Row → Prop}

private theorem storeItem_keeps {draft : Item.Draft} {store : Store}
    (new : ∀ id, allowed (Item.Row.ofDraft id draft)) (old : store.HasOnly allowed) :
    (storeItem store draft).1.HasOnly allowed := by
  unfold storeItem
  cases done : store.insertItem draft with
  | error e => exact old
  | ok answer =>
    obtain ⟨id, later⟩ := answer
    obtain ⟨-, rfl⟩ := Store.insertItem_ok done
    exact List.forall_mem_append.mpr ⟨old, List.forall_mem_singleton.mpr (new id)⟩

private theorem submit_drawsOn {sourceId : Int} {entry : Feed.Entry} {address content : String}
    (new : ∀ id now, allowed (Item.Row.ofDraft id (job.itemDraft sourceId now entry address content))) :
    (job.submit sourceId entry address content).DrawsOn heard (Store.HasOnly allowed)
      fun _ => True := by
  unfold submit look
  rw [Activity.drawsOn_bind]
  refine fun clocks store => ⟨id, ?_⟩
  dsimp only
  split
  next found _ =>
    cases found with
    | some duplicate => trivial
    | none => exact fun clocks store => ⟨storeItem_keeps fun id => new id clocks.now, trivial⟩
  · trivial

private theorem processEntry_drawsOn {entry : Feed.Entry} (renders : ∀ row, job.Renders entry row → allowed row)
    (deadline : Option Nat) (sourceId : Int) :
    (job.processEntry deadline sourceId entry).DrawsOn heard (Store.HasOnly allowed)
      fun _ => True := by
  unfold processEntry
  split
  · trivial
  next address found =>
    have has := Feed.Entry.hasAddress_of_address? found
    rw [Activity.drawsOn_bind]
    refine ((job.fetching deadline).fetch_drawsOn address).mono fun fetched _ => ?_
    split
    · trivial
    split
    · trivial
    next content some =>
      have neat : Text.Neat content := by
        rcases Option.or_eq_some_iff.mp some with article | ⟨-, own⟩
        · obtain ⟨page, -, read⟩ := Option.bind_eq_some_iff.mp article
          exact Html.extract_neat read
        · exact Feed.Entry.ownText?_neat own
      rw [Activity.drawsOn_bind]
      refine (submit_drawsOn fun id now => ?_).mono fun _ _ => trivial
      exact renders _ (itemDraft_renders has neat id sourceId now)

private theorem processEntries_drawsOn {entries : List Feed.Entry}
    (renders : ∀ entry ∈ entries, ∀ row, job.Renders entry row → allowed row) (deadline : Option Nat)
    (sourceId : Int) (range : ObservedRange) :
    (job.processEntries deadline sourceId range entries).DrawsOn heard
      (Store.HasOnly allowed) fun _ => True := by
  induction entries generalizing range with
  | nil => exact Work.drawsOn_pure trivial
  | cons entry rest ih =>
    obtain ⟨first, others⟩ := List.forall_mem_cons.mp renders
    rw [processEntries]
    refine Work.drawsOn_bind Work.drawsOn_tally fun _ _ => ?_
    have handled : (job.inTime (job.processEntry deadline sourceId entry)).DrawsOn heard
        (Store.HasOnly allowed) fun _ => True :=
      Work.drawsOn_inTime ((processEntry_drawsOn first deadline sourceId).mono fun _ _ _ _ => trivial)
    refine Work.drawsOn_bind handled fun outcome _ => ?_
    exact Work.drawsOn_bind Work.drawsOn_tally fun _ _ => ih others _

private theorem collectEntries_drawsOn (brings : ∀ row, job.Brings heard row → allowed row)
    (deadline : Option Nat) (sourceId : Int) :
    (job.collectEntries deadline sourceId).DrawsOn heard (Store.HasOnly allowed)
      fun _ => True := by
  have fetched : (job.inTime ((job.fetching deadline).fetch job.feed.url)).DrawsOn heard
      (Store.HasOnly allowed) fun fetched =>
        ∀ document, fetched = .ok document → (job.fetching none).Brings heard job.feed.url document := by
    refine Work.drawsOn_inTime (((job.fetching deadline).fetch_drawsOn job.feed.url).mono ?_)
    rintro _ brought fetched rfl document rfl
    exact brought document rfl
  unfold collectEntries
  refine Work.drawsOn_bind fetched fun fetched brought => ?_
  cases fetched with
  | error e => exact Work.drawsOn_throw
  | ok document =>
    refine Work.drawsOn_bind (Work.drawsOn_pure (brought document rfl)) fun document brought => ?_
    dsimp only
    cases read : Feed.read document.body with
    | error e => exact Work.drawsOn_throw
    | ok feed =>
      refine Work.drawsOn_bind (Work.drawsOn_pure rfl) fun found same => ?_
      refine Work.drawsOn_bind Work.drawsOn_enter fun _ _ => ?_
      refine processEntries_drawsOn (fun entry member row renders => ?_) deadline sourceId _
      exact brings row ⟨document, feed, entry, brought, read, same ▸ member, renders⟩

private theorem stages_drawsOn (brings : ∀ row, job.Brings heard row → allowed row) :
    job.stages.DrawsOn heard (Store.HasOnly allowed) fun _ => True := by
  unfold stages
  refine Work.drawsOn_bind Work.drawsOn_enter fun _ _ => ?_
  refine Work.drawsOn_bind (Work.drawsOn_transact fun clocks store old => ?_) fun source _ => ?_
  · exact old.of_items (Store.upsertSource_items _ _ _)
  refine Work.drawsOn_bind Work.drawsOn_tally fun _ _ => Work.drawsOn_bind Work.drawsOn_enter fun _ _ => ?_
  refine Work.drawsOn_bind Work.drawsOn_clocks fun start _ => Work.drawsOn_bind Work.drawsOn_tally fun _ _ => ?_
  refine Work.drawsOn_bind Work.drawsOn_enter fun _ _ => ?_
  refine Work.drawsOn_bind (collectEntries_drawsOn brings _ _) fun range _ => ?_
  refine Work.drawsOn_bind (Work.drawsOn_transact fun clocks store old => ?_) fun _ _ => ?_
  · split
    next noted => exact old.of_items (Store.updateSource_items noted)
    · exact old
  refine Work.drawsOn_bind Work.drawsOn_enter fun _ _ => Work.drawsOn_bind Work.drawsOn_tally fun _ _ => ?_
  exact Work.drawsOn_enter

private theorem conclude_drawsOn (fault : Fault) (progress : Progress) :
    (conclude fault progress).DrawsOn heard (Store.HasOnly allowed) fun _ => True := by
  unfold conclude
  dsimp only
  split
  next id _ =>
    refine fun clocks store => ⟨fun old => ?_, trivial⟩
    dsimp only
    split
    next noted => exact old.of_items (Store.updateSource_items noted)
    · exact old
  · trivial

/-- A run stores nothing but what it brings from a feed that it was told. -/
theorem run_drawsOn (brings : ∀ row, job.Brings heard row → allowed row) :
    job.run.DrawsOn heard (Store.HasOnly allowed) fun _ => True := by
  rw [run_eq, Activity.drawsOn_bind]
  refine fun start store => ⟨id, ?_⟩
  rw [Activity.DrawsOn, Activity.drawsOn_bind]
  refine (stages_drawsOn brings _).mono fun ended _ => ?_
  rw [Activity.drawsOn_bind]
  obtain ⟨outcome, progress⟩ := ended
  cases outcome with
  | ok _ => exact fun _ _ => ⟨id, trivial⟩
  | error fault => exact (conclude_drawsOn fault progress).mono fun _ _ => fun _ _ => ⟨id, trivial⟩

end Job

/-! ### Batches -/

namespace Course

/-- A reply that the run of a job, by its index, waited for and got in a course of events. -/
def Told (course : Course) (store : Store) (index : Nat) (request : Request) (reply : Reply) : Prop :=
  ∃ past clocks answer deadline next,
    past ++ [(clocks, Batch.Event.resume index answer)] <+: course.events ∧
    ((Batch.new store course.width course.jobs).afterAll past).started[index]? =
      some (.await deadline (.reply request) next) ∧
    answer (.reply request) = some (Web.Outcome.reply reply)

/-- A row that one of the runs of the course brings, begun with a store. -/
def Brings (course : Course) (store : Store) (row : Item.Row) : Prop :=
  ∃ (index : Nat) (job : Job), course.jobs[index]? = some job ∧ job.Brings (course.Told store index) row

/-- What is true of the batch of a course at any time: its store has only what is allowed, and its runs
draw on what they are told. -/
structure Draws (course : Course) (store : Store) (allowed : Item.Row → Prop) (b : Batch) : Prop where
  waiting : b.waiting = course.jobs.drop b.started.length
  only : b.store.HasOnly allowed
  runs : ∀ (index : Nat) (run : Activity Store Report), b.started[index]? = some run →
    run.DrawsOn (course.Told store index) (Store.HasOnly allowed) fun _ => True

variable {course : Course} {store : Store} {allowed : Item.Row → Prop} {b : Batch}

private theorem Draws.start (draws : course.Draws store allowed b)
    (brings : ∀ row, course.Brings store row → allowed row) (clocks : Clocks) :
    course.Draws store allowed (b.after clocks .start) := by
  simp only [Batch.after]
  split
  · exact draws
  next job rest waiting =>
    split
    · have here : course.jobs[b.started.length]? = some job := by
        have := congrArg (·[0]?) (draws.waiting.symm.trans waiting)
        simpa using this
      have left : rest = course.jobs.drop (b.started.length + 1) := by
        have := congrArg List.tail (draws.waiting.symm.trans waiting)
        simpa using this.symm
      have run : job.run.DrawsOn (course.Told store b.started.length) (Store.HasOnly allowed) fun _ => True :=
        Job.run_drawsOn fun row brought => brings row ⟨b.started.length, job, here, brought⟩
      obtain ⟨only, onward⟩ := run.settle draws.only
      refine ⟨by simpa using left, only, fun index run present => ?_⟩
      rcases Nat.lt_trichotomy index b.started.length with old | rfl | beyond
      · rw [List.getElem?_append_left old] at present
        exact draws.runs index run present
      · rw [List.getElem?_concat_length, Option.some.injEq] at present
        subst present
        exact onward
      · rw [List.getElem?_eq_none (by simp; omega)] at present
        cases present
    · exact draws

private theorem Draws.resume {past : List (Clocks × Batch.Event)} {clocks : Clocks} {index : Nat}
    {answer : (wait : Web.Wait) → Option wait.Answer} (draws : course.Draws store allowed b)
    (is : b = (Batch.new store course.width course.jobs).afterAll past)
    (part : past ++ [(clocks, .resume index answer)] <+: course.events) :
    course.Draws store allowed (b.after clocks (.resume index answer)) := by
  simp only [Batch.after]
  split
  · exact draws
  next run present =>
    have told (deadline : Option Nat) (wait : Web.Wait) (next : Option wait.Answer → Activity Store Report)
        (waits : run = .await deadline wait next) : wait.IsHeard (course.Told store index) (answer wait) := by
      subst waits
      cases wait with
      | reply request => exact fun reply got => ⟨past, clocks, answer, deadline, next, part, is ▸ present, got⟩
      | turn | pause => trivial
    obtain ⟨inside, -⟩ := List.getElem?_eq_some_iff.mp present
    obtain ⟨only, onward⟩ := (draws.runs index run present).resume draws.only told
    refine ⟨by simpa using draws.waiting, only, fun other run' there => ?_⟩
    by_cases same : index = other
    · subst same
      rw [List.getElem?_set_self inside, Option.some.injEq] at there
      subst there
      exact onward
    · rw [List.getElem?_set_ne same] at there
      exact draws.runs other run' there

private theorem draws_afterAll (before : store.HasOnly allowed)
    (brings : ∀ row, course.Brings store row → allowed row) {past : List (Clocks × Batch.Event)}
    (part : past <+: course.events) :
    course.Draws store allowed ((Batch.new store course.width course.jobs).afterAll past) := by
  induction past using List.reverseRecOn with
  | nil => exact ⟨rfl, before, fun _ _ none => nomatch none⟩
  | append_singleton past e ih =>
    obtain ⟨clocks, event⟩ := e
    have draws := ih ((List.prefix_append _ _).trans part)
    rw [Batch.afterAll_concat]
    cases event with
    | start => exact draws.start brings clocks
    | resume index answer => exact draws.resume rfl part

theorem batch_hasOnly (before : store.HasOnly allowed)
    (brings : ∀ row, course.Brings store row → allowed row) : (course.batch store).store.HasOnly allowed :=
  (draws_afterAll before brings List.prefix_rfl).only

theorem storeAfter_concat (store : Store) (courses : List Course) (course : Course) :
    storeAfter store (courses ++ [course]) = (course.batch (storeAfter store courses)).store := by
  simp [storeAfter]

end Course

/-- Every item that any batches have stored, started without items, renders an entry of a feed that one of
their runs was told. -/
theorem items_render_entries (refused : List String) (courses : List Course) :
    (Course.storeAfter { Store.empty with refused } courses).HasOnly fun row =>
      ∃ before course after, courses = before ++ course :: after ∧
        course.Brings (Course.storeAfter { Store.empty with refused } before) row := by
  induction courses using List.reverseRecOn with
  | nil => exact List.forall_mem_nil _
  | append_singleton courses course ih =>
    rw [Course.storeAfter_concat]
    refine Course.batch_hasOnly (fun row member => ?_) fun row brings => ⟨courses, course, [], rfl, brings⟩
    obtain ⟨before, earlier, after, split, brings⟩ := ih row member
    exact ⟨before, earlier, after ++ [course], by simp [split], brings⟩

set_option maxRecDepth 10000 in
theorem items_render_entries_wire :
    let courses := [wireCourse "http://f.example/" .epoch, wireCourse "http://g.example/" ninthDay]
    (Course.storeAfter { Store.empty with refused := [] } courses).items.map (·.content) = ["A", "A"] ∧
    (Course.storeAfter { Store.empty with refused := [] } courses).HasOnly fun row =>
      ∃ before course after, courses = before ++ course :: after ∧
        course.Brings (Course.storeAfter { Store.empty with refused := [] } before) row :=
  ⟨by decide +kernel, items_render_entries [] _⟩

end Collect

end Harvest
