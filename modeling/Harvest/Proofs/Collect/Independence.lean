import Harvest.Proofs.Collect.Confinement
import Harvest.Proofs.Collect.Intake
import Harvest.Proofs.Collect.Lockstep
import Harvest.Proofs.Store.Renumbering

/-!
Feeds that have nothing to do with each other. What one of them finds in the store is the same whether
the other was collected before or not, but for ids; so it makes no difference which comes first.
-/

namespace Harvest

/-- The row of a source under another id. -/
def Source.Row.withId (id : Int) (row : Source.Row) : Source.Row := { row with id }

theorem Source.Row.read_withId (id : Int) (row : Source.Row) :
    (row.withId id).read = (fun source : Source => { source with id }) <$> row.read := by
  simp only [Source.Row.read, Source.Row.withId, map_bind, map_pure]

namespace Collect

open Web (Session)

/-! ### Results for other ids -/

/-- The same result for the source under another id. -/
def RunResult.ofSource (id : Int) (r : RunResult) : RunResult := { r with sourceId := r.sourceId.map fun _ => id }

namespace Job

variable {job : Job} {now : Instant} {s t : Store} {foreign : List Item.Row} {told : Told}

private theorem closed_moved (source : Source) (id : Int) (told : Told) (journal : Journal) (shift : Int) :
    job.closed now { source with id } told (journal.map fun pair => (pair.1, pair.2.map (·.moved shift))) =
      (job.closed now source told journal).ofSource id := by
  have told' : (job.planned now { source with id }).told told
      (journal.map fun pair => (pair.1, pair.2.map (·.moved shift))) =
      ((job.planned now source).told told journal).ofSource id := by
    unfold RunResult.told
    rw [tallied_moved]
    split
    · rfl
    · rfl
  unfold closed
  rw [told']
  split
  · rfl
  · rfl

/-! ### Runs beside each other -/

/-- The id of the job's source once it is resolved. -/
def idIn (job : Job) (store : Store) : Int :=
  ((store.sourceRowAt? "rss" job.feed.url).map (·.id)).getD (store.lastSourceId + 1)

/-- A store is like another to a job, though it has foreign items more. -/
structure Beside (job : Job) (readings : List (Feed.Entry × Reading)) (foreign : List Item.Row)
    (s t : Store) : Prop where
  sound : s.Sound
  source : t.sourceRowAt? "rss" job.feed.url = s.sourceRowAt? "rss" job.feed.url
  sourceIds : s.lastSourceId ≤ t.lastSourceId
  items : t.items = s.items ++ foreign
  lastItemId : t.lastItemId = s.lastItemId + foreign.length
  refused : t.refused = s.refused
  unlike : ∀ entry address content, (entry, .ok (address, content)) ∈ readings → ∀ row ∈ foreign,
    (⟨address, address, contentHash content⟩ : Store.Identity).matchOf? row = none

private theorem Beside.unrelated {readings : List (Feed.Entry × Reading)}
    (beside : job.Beside readings foreign s t) :
    Unrelated s foreign (job.idIn s) (job.idIn t) readings := by
  refine ⟨fun row member => ?_, beside.unlike⟩
  unfold idIn
  rw [beside.source]
  cases s.sourceRowAt? "rss" job.feed.url with
  | some known => exact Iff.rfl
  | none =>
    -- The source is new in both stores, and the row belongs to one that has an id already.
    obtain ⟨source, present, owner⟩ := beside.sound.owned row member
    have used := beside.sound.sourceIds.used source.id (List.mem_map_of_mem present)
    have ahead := beside.sourceIds
    simp only [Option.map_none, Option.getD_none]
    omega

private theorem Beside.refl (sound : s.Sound) (readings : List (Feed.Entry × Reading)) :
    job.Beside readings [] s s :=
  ⟨sound, rfl, Int.le_refl _, (List.append_nil _).symm, (Int.add_zero _).symm, rfl, fun _ _ _ _ _ => nofun⟩

/-- Up to the entries, a run only puts the row of its source. -/
private structure Resolves (job : Job) (store resolved : Store) (row : Source.Row) : Prop where
  id : row.id = job.idIn store
  source : resolved.sourceRowAt? "rss" job.feed.url = some row
  items : resolved.items = store.items
  lastSourceId : resolved.lastSourceId = store.lastSourceId + 1
  lastItemId : resolved.lastItemId = store.lastItemId
  refused : resolved.refused = store.refused

private theorem resolved_of_put {store resolved : Store} {row : Source.Row}
    (put : store.putSource now job.sourceDraft = .ok resolved)
    (found : resolved.sourceRowAt? "rss" job.feed.url = some row) (id : row.id = job.idIn store) :
    job.Resolves store resolved row := by
  have frame := Store.putSource_frame put
  refine ⟨id, found, ?_, ?_, ?_, ?_⟩
  all_goals rw [frame]

private theorem Beside.resolves {readings : List (Feed.Entry × Reading)}
    (beside : job.Beside readings foreign s t) (score : job.sourceDraft.credibility.isNaN = false)
    (now : Instant) : ∃ s' t' row, s.upsertSource now job.sourceDraft = (s', row.read) ∧
      t.upsertSource now job.sourceDraft = (t', (row.withId (job.idIn t)).read) ∧
      job.Resolves s s' row ∧ job.Resolves t t' (row.withId (job.idIn t)) := by
  obtain ⟨s', row, put, found, made, answer⟩ := s.upsertSource_spec now score
  obtain ⟨t', row', put', found', made', answer'⟩ := t.upsertSource_spec now score
  have source : t.sourceRowAt? job.sourceDraft.sourceType job.sourceDraft.url =
      s.sourceRowAt? job.sourceDraft.sourceType job.sourceDraft.url := beside.source
  have both : row.id = job.idIn s ∧ row' = row.withId (job.idIn t) := by
    unfold idIn
    rw [beside.source]
    rw [source] at made'
    cases known : s.sourceRowAt? job.sourceDraft.sourceType job.sourceDraft.url with
    | some old =>
      rw [known] at made made'
      have known : s.sourceRowAt? "rss" job.feed.url = some old := known
      rw [known, made, made']
      exact ⟨rfl, rfl⟩
    | none =>
      rw [known] at made made'
      have known : s.sourceRowAt? "rss" job.feed.url = none := known
      rw [known, made, made']
      exact ⟨rfl, rfl⟩
  obtain ⟨id, rfl⟩ := both
  exact ⟨s', t', row, answer, answer', resolved_of_put put found id, resolved_of_put put' found' rfl⟩

/-- What a job's runs over two stores come to, one of which has foreign items more: the same but for ids. -/
private structure Counterparts (job : Job) (readings : List (Feed.Entry × Reading)) (foreign : List Item.Row)
    (rows : List Item.Row) (s t : Store) (came came' : Store × RunResult) : Prop where
  items : came.1.items = s.items ++ rows
  items' : came'.1.items = t.items ++ rows.map (·.moved foreign.length (job.idIn t))
  own : ∀ row ∈ rows, row.sourceId = job.idIn s ∧
    (s.lastItemId < row.id ∧ row.id ≤ s.lastItemId + rows.length) ∧ StemsFrom readings row
  lastItemId : came.1.lastItemId = s.lastItemId + rows.length
  lastItemId' : came'.1.lastItemId = t.lastItemId + rows.length
  lastSourceId : came.1.lastSourceId = s.lastSourceId + 1
  lastSourceId' : came'.1.lastSourceId = t.lastSourceId + 1
  source : ∃ row, row.id = job.idIn s ∧ came.1.sourceRowAt? "rss" job.feed.url = some row ∧
    came'.1.sourceRowAt? "rss" job.feed.url = some (row.withId (job.idIn t))
  result : came'.2 = came.2.ofSource (job.idIn t)
  sourceId : ∀ id, came.2.sourceId = some id → id = job.idIn s

private theorem Resolves.known {store resolved : Store} {row : Source.Row}
    (is : job.Resolves store resolved row) : resolved.sources.any (·.id == job.idIn store) = true :=
  List.any_eq_true.mpr ⟨row, (Store.sourceRowAt?_key is.source).1, beq_iff_eq.mpr is.id⟩

private theorem Beside.inStep {s' t' : Store} {row row' : Source.Row} {readings : List (Feed.Entry × Reading)}
    (beside : job.Beside readings foreign s t) (is : job.Resolves s s' row) (is' : job.Resolves t t' row') :
    InStep s foreign (job.idIn s) (job.idIn t) readings [] s' t' := by
  have last := beside.lastItemId
  have last' := is.lastItemId
  have last'' := is'.lastItemId
  refine ⟨?_, ?_, ?_, by omega, nofun, ?_, is.known, is'.known⟩
  · rw [is.items, List.append_nil]
  · rw [is'.items, beside.items, List.map_nil, List.append_nil]
  · rw [List.length_nil]
    omega
  · rw [is'.refused, beside.refused, is.refused]

/-- What a run notes in the end shows in the row of its source. -/
private theorem noted_at {taken later : Store} {source : Source} {row : Source.Row} {id : Int}
    (found : taken.sourceRowAt? "rss" job.feed.url = some row) (same : row.id = id)
    (noted : taken.updateSource id (job.closing now source told) = .ok later) :
    later.sourceRowAt? "rss" job.feed.url = some (job.closing now source told row) := by
  have sameKey (row : Source.Row) : (job.closing now source told row).key = row.key :=
    congrArg (fun o => (o.2.1, o.2.2.1)) (job.closing_origin now source told row)
  rw [Store.updateSource_at sameKey noted, found, Option.map_some, if_pos (beq_iff_eq.mpr same)]

/-- Over two stores like each other to a job, its runs come to counterparts. -/
private theorem Beside.upshot (beside : job.Beside told.readings foreign s t)
    (reach : (Store.daysBefore? now job.config.collection.dedupWindowDays).isSome = true)
    (score : job.sourceDraft.credibility.isNaN = false) : ∃ rows,
    job.Counterparts told.readings foreign rows s t (job.upshot now s told) (job.upshot now t told) := by
  obtain ⟨s', t', row, done, done', is, is'⟩ := beside.resolves score now
  rw [Source.Row.read_withId] at done'
  have begun := beside.inStep is is'
  cases read : row.read with
  | error e =>
    rw [read] at done done'
    unfold Job.upshot
    rw [done, done']
    exact ⟨[], begun.items, begun.items'.trans (congrArg (· ++ _) beside.items.symm), nofun, begun.lastItemId,
      is'.lastItemId.trans (Int.add_zero _).symm, is.lastSourceId, is'.lastSourceId,
      ⟨row, is.id, is.source, is'.source⟩, rfl, nofun⟩
  | ok source =>
    rw [read] at done done'
    have done' : t.upsertSource now job.sourceDraft = (t', .ok { source with id := job.idIn t }) := done'
    obtain ⟨later, noted, comes⟩ := upshot_resolved done told
    obtain ⟨later', noted', comes'⟩ := upshot_resolved done' told
    have id : source.id = job.idIn s := (Store.read_id read).trans is.id
    rw [comes, comes']
    rw [id] at noted ⊢
    obtain ⟨rows, taken, journal⟩ := begun.handleAll beside.unrelated reach fun _ member => member
    have sources := job.handleAll_sources now (job.idIn s) s' told.readings
    have sources' := job.handleAll_sources now (job.idIn t) t' told.readings
    have found := (sources.sourceRowAt?_eq "rss" job.feed.url).trans is.source
    have found' := (sources'.sourceRowAt?_eq "rss" job.feed.url).trans is'.source
    have last := taken.lastItemId
    have last' := taken.lastItemId'
    have before := beside.lastItemId
    refine ⟨rows, ?_, ?_, ?_, ?_, ?_, ?_, ?_, ⟨job.closing now source told row, ?_, ?_, ?_⟩, ?_, ?_⟩
    · rw [Store.updateSource_items noted]
      exact taken.items
    · rw [Store.updateSource_items noted', beside.items]
      exact taken.items'
    · rw [← last]
      exact taken.own
    · rw [Store.updateSource_frame noted]
      exact last
    · rw [Store.updateSource_frame noted']
      dsimp only
      omega
    · rw [Store.updateSource_frame noted]
      exact sources.2.1.trans is.lastSourceId
    · rw [Store.updateSource_frame noted']
      exact sources'.2.1.trans is'.lastSourceId
    · exact (congrArg (·.1) (job.closing_origin now source told row)).trans is.id
    · exact noted_at found is.id noted
    · have moved : job.closing now { source with id := job.idIn t } told (row.withId (job.idIn t)) =
          (job.closing now source told row).withId (job.idIn t) := by
        unfold closing
        split
        · rfl
        · rfl
      rw [← moved]
      exact noted_at found' rfl noted'
    · rw [journal, closed_moved]
    · intro known given
      rw [closed_sourceId, id] at given
      exact (Option.some.inj given).symm

/-! ### Both orders -/

/-- What a run comes to when it is performed alone. -/
private structure Comes (job : Job) (now : Instant) (told : Told) (earlier later : Store) (r : RunResult) :
    Prop where
  upshot : job.upshot now earlier told = (later, r)
  writes : job.Writes (fun _ => True) earlier later

private theorem Comes.sound {later : Store} {r : RunResult} (comes : job.Comes now told s later r)
    (sound : s.Sound) : later.Sound :=
  (comes.writes.1.sound sound).1

section BothOrders

variable {a b : Job} {store sA sB sAB sBA : Store} {toldA toldB : Told} {rA rA' rB rB' : RunResult}

end BothOrders

/-! ### Two runs in a row -/

/-- The addresses and the content hashes of the entries that a run processes. -/
def marks (job : Job) (o : Web.Outlook) : List (String × String) :=
  ((job.reads? o).getD []).filterMap fun
    | (_, .ok (address, content)) => some (address, contentHash content)
    | _ => none

end Job

end Collect

end Harvest
