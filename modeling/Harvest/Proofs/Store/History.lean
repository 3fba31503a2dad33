import Harvest.Proofs.Outcome
import Harvest.Store.Basic
import Mathlib.Data.List.Nodup
import Mathlib.Data.List.Infix
import Mathlib.Tactic.Common

/-!
Histories of a store: writes one after the other, granted or not. Whatever is written, keys and ids
stay unique, every item keeps its source, rows only come at the end of a table, and ids grow beyond
all that were ever given back.
-/

namespace Harvest

/-- What no two sources share. -/
def Source.Row.key (row : Source.Row) : String × String := (row.sourceType, row.url)

/-- What no two items share. -/
def Item.Row.key (row : Item.Row) : Int × String := (row.sourceId, row.externalId)

/-- The part of a source that no write changes. -/
def Source.Row.origin (row : Source.Row) : Int × String × String × String :=
  (row.id, row.sourceType, row.url, row.createdAt)

namespace Source.Row

theorem refresh_origin (now : Instant) (draft : Draft) (row : Row) :
    (row.refresh now draft).origin = row.origin := rfl

theorem succeed_origin (windowEnd fetchedAt : Instant) (row : Row) :
    (row.succeed windowEnd fetchedAt).origin = row.origin := rfl

theorem fail_origin (error : String) (now : Instant) (row : Row) :
    (row.fail error now).origin = row.origin := rfl

/-- What a source has from each column of its row. -/
structure ReadsAs (row : Row) (source : Source) : Prop where
  id : source.id = row.id
  key : (source.sourceType, source.url) = row.key
  name : source.name = row.name
  credibility : source.credibility = row.credibility
  tier : source.tier = row.tier
  reportingType : source.reportingType = row.reportingType
  config : readConfig row.config = .ok source.config
  active : source.active = (row.active != 0)
  lastFetched : Store.Column.optionalInstant 9 row.lastFetchedAt = .ok source.lastFetchedAt
  watermark : Store.Column.optionalInstant 10 row.watermark = .ok source.watermark
  failures : Store.Column.count 11 "error_count" row.errorCount = .ok source.errorCount
  lastError : source.lastError = row.lastError
  created : Store.Column.instant 13 row.createdAt = .ok source.createdAt
  updated : Store.Column.instant 14 row.updatedAt = .ok source.updatedAt

theorem read_readsAs {row : Row} {source : Source} (ok : row.read = .ok source) : row.ReadsAs source := by
  unfold read at ok
  obtain ⟨config, configRead, ok⟩ := except_bind_ok ok
  obtain ⟨lastFetched, fetchedRead, ok⟩ := except_bind_ok ok
  obtain ⟨watermark, markRead, ok⟩ := except_bind_ok ok
  obtain ⟨failures, countRead, ok⟩ := except_bind_ok ok
  obtain ⟨created, createdRead, ok⟩ := except_bind_ok ok
  obtain ⟨updated, updatedRead, ok⟩ := except_bind_ok ok
  cases ok
  exact ⟨rfl, rfl, rfl, rfl, rfl, rfl, configRead, rfl, fetchedRead, markRead, countRead, rfl, createdRead,
    updatedRead⟩

end Source.Row

namespace Store

/-- A write with its arguments and, where it reads the clock, the reading. -/
inductive Operation where
  | upsertSource (now : Instant) (draft : Source.Draft)
  | recordSuccess (id : Int) (windowEnd fetchedAt : Instant)
  | recordFailure (id : Int) (error : String) (now : Instant)
  | insertItem (draft : Item.Draft)

namespace Operation

/-- The store after a write; a write that is refused leaves it as it was. -/
def apply (store : Store) : Operation → Store
  | upsertSource now draft => (store.upsertSource now draft).1
  | recordSuccess id windowEnd fetchedAt =>
    (store.recordSuccess id windowEnd fetchedAt).toOption.getD store
  | recordFailure id error now => (store.recordFailure id error now).toOption.getD store
  | insertItem draft => ((store.insertItem draft).toOption.map (·.2)).getD store

def sourceId? (store : Store) : Operation → Option Int
  | upsertSource now draft => (store.upsertSource now draft).2.toOption.map (·.id)
  | _ => none

def itemId? (store : Store) : Operation → Option Int
  | insertItem draft => (store.insertItem draft).toOption.map (·.1)
  | _ => none

end Operation

/-- A store with the ids that writes gave back so far. -/
structure History where
  store : Store
  sourceIds : List Int
  itemIds : List Int

namespace History

/-- A store without rows that refuses items with these endings. -/
def new (refused : List String) : History := ⟨{ empty with refused }, [], []⟩

def after (h : History) (op : Operation) : History :=
  { store := op.apply h.store
    sourceIds := h.sourceIds ++ (op.sourceId? h.store).toList
    itemIds := h.itemIds ++ (op.itemId? h.store).toList }

def afterAll (h : History) (ops : List Operation) : History := ops.foldl after h

end History

/-- Ids as a table gives them out: each beyond the one before, up to the last one used. -/
structure Issued (last : Int) (ids : List Int) : Prop where
  growing : ids.Pairwise (· < ·)
  used : ∀ id ∈ ids, id ≤ last

/-- What holds of the tables at all times. -/
structure Sound (store : Store) : Prop where
  sourceKeys : (store.sources.map Source.Row.key).Nodup
  itemKeys : (store.items.map Item.Row.key).Nodup
  owned : ∀ item ∈ store.items, ∃ source ∈ store.sources, source.id = item.sourceId
  sourceIds : Issued store.lastSourceId (store.sources.map (·.id))
  itemIds : Issued store.lastItemId (store.items.map (·.id))

/-- A later store has all rows of an earlier one in front: items as they were, sources with the same
id, key and time of creation. -/
structure Extends (earlier later : Store) : Prop where
  items : earlier.items <+: later.items
  sources : earlier.sources.map Source.Row.origin <+: later.sources.map Source.Row.origin
  sourceIds : earlier.lastSourceId ≤ later.lastSourceId
  itemIds : earlier.lastItemId ≤ later.lastItemId

namespace Issued

theorem mono {last later : Int} {ids : List Int} (issued : Issued last ids) (grown : last ≤ later) :
    Issued later ids :=
  ⟨issued.growing, fun id member => Int.le_trans (issued.used id member) grown⟩

theorem nodup {last : Int} {ids : List Int} (issued : Issued last ids) : ids.Nodup :=
  issued.growing.imp Int.ne_of_lt

theorem next {last : Int} {ids : List Int} (issued : Issued last ids) :
    Issued (last + 1) (ids ++ [last + 1]) := by
  constructor
  · refine List.pairwise_append.mpr ⟨issued.growing, List.pairwise_singleton _ _, ?_⟩
    intro id member new isNew
    have := issued.used id member
    cases List.mem_singleton.mp isNew
    omega
  · intro id member
    rcases List.mem_append.mp member with present | isNew
    · have := issued.used id present
      omega
    · cases List.mem_singleton.mp isNew
      omega

end Issued

namespace Extends

theorem refl (store : Store) : Extends store store :=
  ⟨List.prefix_rfl, List.prefix_rfl, Int.le_refl _, Int.le_refl _⟩

theorem trans {a b c : Store} (first : Extends a b) (second : Extends b c) : Extends a c :=
  ⟨first.items.trans second.items, first.sources.trans second.sources,
    Int.le_trans first.sourceIds second.sourceIds, Int.le_trans first.itemIds second.itemIds⟩

end Extends

/-! ### Rows -/

theorem hasKey_iff {sourceType url : String} {row : Source.Row} :
    row.hasKey sourceType url = true ↔ row.key = (sourceType, url) := by
  simp [Source.Row.hasKey, Source.Row.key]

theorem item_hasKey_iff {sourceId : Int} {externalId : String} {row : Item.Row} :
    row.hasKey sourceId externalId = true ↔ row.key = (sourceId, externalId) := by
  simp [Item.Row.hasKey, Item.Row.key]

theorem map_changed {α : Type} (column : Source.Row → α) (change : Source.Row → Source.Row)
    (unseen : ∀ row, column (change row) = column row) (p : Source.Row → Bool)
    (rows : List Source.Row) :
    (rows.map fun row => if p row then change row else row).map column = rows.map column := by
  rw [List.map_map]
  apply List.map_congr_left
  intro row _
  dsimp only [Function.comp]
  split
  · exact unseen row
  · rfl

/-! ### The single writes -/

private theorem changed_sound {store : Store} (sound : Sound store) (p : Source.Row → Bool)
    (change : Source.Row → Source.Row) (unseen : ∀ row, (change row).origin = row.origin)
    (last : Int) (grown : store.lastSourceId ≤ last) :
    let later := { store with
      sources := store.sources.map fun row => if p row then change row else row
      lastSourceId := last }
    Sound later ∧ Extends store later := by
  have origins := map_changed Source.Row.origin change unseen p store.sources
  have keys := map_changed Source.Row.key change
    (fun row => congrArg (fun o => (o.2.1, o.2.2.1)) (unseen row)) p store.sources
  have ids := map_changed (·.id) change (fun row => congrArg (·.1) (unseen row)) p store.sources
  refine ⟨⟨?_, sound.itemKeys, ?_, ?_, sound.itemIds⟩, ?_⟩
  · rw [keys]
    exact sound.sourceKeys
  · intro item member
    obtain ⟨source, present, same⟩ := sound.owned item member
    have listed : source.id ∈ store.sources.map (·.id) := List.mem_map_of_mem present
    rw [← ids] at listed
    obtain ⟨changed, present, equal⟩ := List.mem_map.mp listed
    exact ⟨changed, present, equal.trans same⟩
  · rw [ids]
    exact sound.sourceIds.mono grown
  · exact ⟨List.prefix_rfl, by rw [origins], grown, Int.le_refl _⟩

theorem updateSource_sound {store later : Store} (sound : Sound store) {id : Int}
    {change : Source.Row → Source.Row} (unseen : ∀ row, (change row).origin = row.origin)
    (ok : store.updateSource id change = .ok later) : Sound later ∧ Extends store later := by
  unfold updateSource at ok
  split at ok
  · cases ok
    exact changed_sound sound _ change unseen _ (Int.le_refl _)
  · cases ok

theorem putSource_sound {store later : Store} (sound : Sound store) {now : Instant}
    {draft : Source.Draft} (ok : store.putSource now draft = .ok later) :
    Sound later ∧ Extends store later := by
  unfold putSource at ok
  split at ok
  · cases ok
  dsimp only at ok
  split at ok
  next met =>
    cases ok
    exact changed_sound sound _ (·.refresh now draft) (Source.Row.refresh_origin _ _) _ (by omega)
  next unmet =>
    cases ok
    have unknown : ∀ row ∈ store.sources, row.key ≠ (draft.sourceType, draft.url) :=
      fun row present same => unmet (List.any_eq_true.mpr ⟨row, present, hasKey_iff.mpr same⟩)
    refine ⟨⟨?_, sound.itemKeys, ?_, ?_, sound.itemIds⟩, ?_⟩
    · rw [List.map_append]
      refine sound.sourceKeys.append (List.nodup_singleton _) ?_
      intro key member isNew
      obtain ⟨row, present, rfl⟩ := List.mem_map.mp member
      exact unknown row present (List.mem_singleton.mp isNew)
    · intro item member
      obtain ⟨source, present, same⟩ := sound.owned item member
      exact ⟨source, List.mem_append_left _ present, same⟩
    · rw [List.map_append]
      exact sound.sourceIds.next
    · refine ⟨List.prefix_rfl, ?_, by dsimp only; omega, Int.le_refl _⟩
      rw [List.map_append]
      exact List.prefix_append _ _

theorem insertItem_sound {store later : Store} (sound : Sound store) {draft : Item.Draft} {id : Int}
    (ok : store.insertItem draft = .ok (id, later)) : Sound later ∧ Extends store later := by
  unfold insertItem at ok
  split at ok
  · cases ok
  split at ok
  · cases ok
  next unmet =>
  split at ok
  next hasSource =>
    cases ok
    have unknown : ∀ row ∈ store.items, row.key ≠ (draft.sourceId, draft.externalId) :=
      fun row present same => unmet (List.any_eq_true.mpr ⟨row, present, item_hasKey_iff.mpr same⟩)
    refine ⟨⟨sound.sourceKeys, ?_, ?_, sound.sourceIds, ?_⟩, ?_⟩
    · rw [List.map_append]
      refine sound.itemKeys.append (List.nodup_singleton _) ?_
      intro key member isNew
      obtain ⟨row, present, rfl⟩ := List.mem_map.mp member
      exact unknown row present (List.mem_singleton.mp isNew)
    · intro item member
      rcases List.mem_append.mp member with present | isNew
      · exact sound.owned item present
      · cases List.mem_singleton.mp isNew
        obtain ⟨source, present, same⟩ := List.any_eq_true.mp hasSource
        exact ⟨source, present, eq_of_beq same⟩
    · rw [List.map_append]
      exact sound.itemIds.next
    · exact ⟨List.prefix_append _ _, List.prefix_rfl, Int.le_refl _, by dsimp only; omega⟩
  · cases ok

/-! ### What writes give back -/

theorem read_id {row : Source.Row} {source : Source} (ok : row.read = .ok source) :
    source.id = row.id :=
  (Source.Row.read_readsAs ok).id

theorem getSourceAt_some {store : Store} {sourceType url : String} {source : Source}
    (ok : store.getSourceAt sourceType url = .ok (some source)) :
    ∃ row, store.sourceRowAt? sourceType url = some row ∧ row.read = .ok source := by
  unfold getSourceAt at ok
  split at ok
  next row present =>
    cases value : row.read with
    | error e => simp [value, Except.map] at ok
    | ok s =>
      simp only [value, Except.map, Except.ok.injEq, Option.some.injEq] at ok
      exact ⟨row, present, ok ▸ value⟩
  · cases ok

/-- An upsert gives back the row at the address as it reads afterwards. -/
theorem upsertSource_ok {store later : Store} {now : Instant} {draft : Source.Draft}
    {source : Source} (ok : store.upsertSource now draft = (later, .ok source)) :
    store.putSource now draft = .ok later ∧
      ∃ row, later.sourceRowAt? draft.sourceType draft.url = some row ∧ row.read = .ok source := by
  unfold upsertSource at ok
  split at ok
  · cases ok
  next put =>
  obtain ⟨rfl, found⟩ := Prod.mk.inj ok
  obtain ⟨answer, read, found⟩ := except_bind_ok found
  cases answer with
  | none => cases found
  | some s =>
    cases found
    exact ⟨put, getSourceAt_some read⟩

theorem apply_sound {store : Store} (sound : Sound store) (op : Operation) :
    Sound (op.apply store) ∧ Extends store (op.apply store) := by
  have same : Sound store ∧ Extends store store := ⟨sound, .refl store⟩
  cases op with
  | upsertSource now draft =>
    simp only [Operation.apply, upsertSource]
    split
    · exact same
    next put => exact putSource_sound sound put
  | recordSuccess id windowEnd fetchedAt =>
    simp only [Operation.apply]
    cases put : store.recordSuccess id windowEnd fetchedAt with
    | error e => exact same
    | ok later => exact updateSource_sound sound (Source.Row.succeed_origin _ _) put
  | recordFailure id error now =>
    simp only [Operation.apply]
    cases put : store.recordFailure id error now with
    | error e => exact same
    | ok later => exact updateSource_sound sound (Source.Row.fail_origin _ _) put
  | insertItem draft =>
    simp only [Operation.apply]
    cases put : store.insertItem draft with
    | error e => exact same
    | ok answer => exact insertItem_sound sound put

theorem applyAll_sound {store : Store} (sound : Sound store) (ops : List Operation) :
    Sound (ops.foldl Operation.apply store) ∧ Extends store (ops.foldl Operation.apply store) := by
  induction ops generalizing store with
  | nil => exact ⟨sound, .refl store⟩
  | cons op rest ih =>
    obtain ⟨soundNext, grownNext⟩ := apply_sound sound op
    obtain ⟨soundLast, grownLast⟩ := ih soundNext
    exact ⟨soundLast, grownNext.trans grownLast⟩

theorem sourceId_listed {store : Store} {op : Operation} {id : Int}
    (given : op.sourceId? store = some id) : id ∈ (op.apply store).sources.map (·.id) := by
  cases op with
  | upsertSource now draft =>
    obtain ⟨source, found, rfl⟩ := Option.map_eq_some_iff.mp given
    cases done : store.upsertSource now draft with
    | mk later answer =>
      simp only [done] at found
      cases answer with
      | error e => cases found
      | ok s =>
        cases found
        obtain ⟨-, row, present, read⟩ := upsertSource_ok done
        simp only [Operation.apply, done, read_id read]
        exact List.mem_map_of_mem (List.mem_of_find?_eq_some present)
  | recordSuccess | recordFailure | insertItem => cases given

theorem itemId_listed {store : Store} {op : Operation} {id : Int}
    (given : op.itemId? store = some id) : id ∈ (op.apply store).items.map (·.id) := by
  cases op with
  | insertItem draft =>
    obtain ⟨answer, found, rfl⟩ := Option.map_eq_some_iff.mp given
    cases put : store.insertItem draft with
    | error e => simp [put, Except.toOption] at found
    | ok pair =>
      simp only [put, Except.toOption, Option.some.injEq] at found
      subst found
      simp only [Operation.apply, put, Except.toOption, Option.map_some, Option.getD_some]
      unfold insertItem at put
      split at put
      · cases put
      split at put
      · cases put
      split at put
      · cases put
        simp [Item.Row.ofDraft]
      · cases put
  | upsertSource | recordSuccess | recordFailure => cases given

/-! ### Histories -/

private theorem Issued.beyond {last : Int} {earlier later : List Int} (issued : Issued last later)
    (front : earlier <+: later) {id : Int} (member : id ∈ later) :
    id ∈ earlier ∨ ∀ old ∈ earlier, old < id := by
  obtain ⟨rest, rfl⟩ := front
  rcases List.mem_append.mp member with old | new
  · exact Or.inl old
  · exact Or.inr fun other present =>
      (List.pairwise_append.mp issued.growing).2.2 other present id new

theorem Extends.sourceIds_prefix {earlier later : Store} (grown : Extends earlier later) :
    earlier.sources.map (·.id) <+: later.sources.map (·.id) := by
  have := grown.sources.map (·.1)
  rwa [List.map_map, List.map_map] at this

/-- What a history knows: its tables are sound, and ids that were given back are still there. -/
private structure Kept (h : History) : Prop where
  sound : Sound h.store
  sources : ∀ id ∈ h.sourceIds, id ∈ h.store.sources.map (·.id)
  items : ∀ id ∈ h.itemIds, id ∈ h.store.items.map (·.id)

private theorem Kept.after {h : History} (kept : Kept h) (op : Operation) : Kept (h.after op) := by
  obtain ⟨sound, grown⟩ := apply_sound kept.sound op
  refine ⟨sound, ?_, ?_⟩
  · intro id member
    rcases List.mem_append.mp member with old | new
    · exact grown.sourceIds_prefix.subset (kept.sources id old)
    · exact sourceId_listed (Option.mem_toList.mp new)
  · intro id member
    rcases List.mem_append.mp member with old | new
    · exact (grown.items.map (·.id)).subset (kept.items id old)
    · exact itemId_listed (Option.mem_toList.mp new)

theorem new_sound (refused : List String) : Sound (History.new refused).store :=
  have none : Issued 0 [] := ⟨List.Pairwise.nil, fun _ => nofun⟩
  ⟨List.nodup_nil, List.nodup_nil, fun _ => nofun, none, none⟩

private theorem Kept.afterAll {h : History} (kept : Kept h) (ops : List Operation) :
    Kept (h.afterAll ops) := by
  induction ops generalizing h with
  | nil => exact kept
  | cons op rest ih => exact ih (kept.after op)

/-- After any writes, refused ones included, keys and ids are unique and every item has its source.
One more write removes no row and changes no item, and a row it adds has an id beyond all that its
table holds or ever gave back. -/
theorem writes_keep_tables (refused : List String) (ops : List Operation) (op : Operation) :
    let h := (History.new refused).afterAll ops
    Sound h.store ∧ Extends h.store (h.after op).store ∧
      (∀ row ∈ (h.after op).store.sources, row.id ∈ h.store.sources.map (·.id) ∨
        ∀ id ∈ h.sourceIds ++ h.store.sources.map (·.id), id < row.id) ∧
      (∀ row ∈ (h.after op).store.items, row ∈ h.store.items ∨
        ∀ id ∈ h.itemIds ++ h.store.items.map (·.id), id < row.id) := by
  intro h
  have kept : Kept h :=
    Kept.afterAll ⟨new_sound refused, by simp [History.new], by simp [History.new]⟩ ops
  obtain ⟨sound, grown⟩ := apply_sound kept.sound op
  refine ⟨kept.sound, grown, ?_, ?_⟩
  · intro row member
    rcases sound.sourceIds.beyond grown.sourceIds_prefix (List.mem_map_of_mem member) with old | beyond
    · exact Or.inl old
    · refine Or.inr fun id known => beyond id ?_
      rcases List.mem_append.mp known with given | present
      · exact kept.sources id given
      · exact present
  · intro row member
    obtain ⟨rest, same⟩ := grown.items
    have member : row ∈ h.store.items ++ rest := same ▸ member
    rcases List.mem_append.mp member with old | new
    · exact Or.inl old
    · have issued : Issued (op.apply h.store).lastItemId ((h.store.items ++ rest).map (·.id)) :=
        same ▸ sound.itemIds
      rw [List.map_append] at issued
      have split := (List.pairwise_append.mp issued.growing).2.2
      refine Or.inr fun id known => split id ?_ row.id (List.mem_map_of_mem new)
      rcases List.mem_append.mp known with given | present
      · exact kept.items id given
      · exact present

end Store

end Harvest
