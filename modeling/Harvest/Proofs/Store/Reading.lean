import Harvest.Proofs.Store.Frame
import Harvest.Proofs.Time.Timestamp

/-!
Reading back what was stored. An item that a store took is found by its id and by its name at any
later time, and its row never changes; but a row reads back as its item only if the years of its
timestamps are written with four digits, as those of other years are stored in a form that no reader
takes.
-/

namespace Harvest

namespace Item.Draft

/-- The item that a draft stands for: its timestamps are kept to the microsecond. -/
def item (draft : Draft) (id : Int) : Item :=
  { id, sourceId := draft.sourceId, externalId := draft.externalId, url := draft.url
    title := draft.title, author := draft.author
    publishedAt := draft.publishedAt.map Instant.truncateMicros
    fetchedAt := draft.fetchedAt.truncateMicros, content := draft.content, hash := draft.hash
    language := draft.language, status := draft.status, errorMessage := none }

/-- The first of a draft's timestamps that is not written with a year of four digits, with the column
where it is stored. -/
def unreadable? (draft : Draft) : Option (Nat × Instant) :=
  match draft.publishedAt with
  | some t => if t.HasFourDigitYear then fetched? draft.fetchedAt else some (6, t)
  | none => fetched? draft.fetchedAt
where
  fetched? (t : Instant) : Option (Nat × Instant) := if t.HasFourDigitYear then none else some (7, t)

/-- What reading the row of a draft gives. -/
def reading (draft : Draft) (id : Int) : Except Store.Error Item :=
  match draft.unreadable? with
  | none => .ok (draft.item id)
  | some (column, t) => .error (.conversion column ("invalid timestamp: " ++ Rfc3339.micros t))

end Item.Draft

theorem ItemStatus.ofName?_name (status : ItemStatus) : ofName? status.name = some status := by
  cases status <;> decide

namespace Store

open Item (Draft)

private theorem column_instant (index : Nat) (t : Instant) : Column.instant index (Rfc3339.micros t) =
    if t.HasFourDigitYear then .ok t.truncateMicros
    else .error (.conversion index ("invalid timestamp: " ++ Rfc3339.micros t)) := by
  unfold Column.instant
  split_ifs with year
  · rw [Rfc3339.parse?_micros year]
  · rw [Rfc3339.parse?_micros_eq_none year]

theorem read_ofDraft (draft : Draft) (id : Int) :
    (Item.Row.ofDraft id draft).read = draft.reading id := by
  have status : Item.Row.readStatus draft.status.name = .ok draft.status := by
    simp [Item.Row.readStatus, ItemStatus.ofName?_name]
  have fetched := column_instant 7 draft.fetchedAt
  unfold Item.Row.read Item.Row.ofDraft Draft.reading Draft.unreadable? Draft.unreadable?.fetched?
  simp only [status, fetched]
  cases known : draft.publishedAt with
  | none =>
    by_cases year : draft.fetchedAt.HasFourDigitYear
    · simp only [if_pos year, Draft.item, known, Option.map_none]
      rfl
    · simp only [if_neg year, Option.map_none]
      rfl
  | some t =>
    have published := column_instant 6 t
    simp only [Option.map_some, Column.optionalInstant, published]
    by_cases early : t.HasFourDigitYear
    · by_cases year : draft.fetchedAt.HasFourDigitYear
      · simp only [if_pos early, if_pos year, Draft.item, known, Option.map_some]
        rfl
      · simp only [if_pos early, if_neg year]
        rfl
    · simp only [if_neg early]
      rfl

theorem reading_eq_ok_iff {draft : Draft} {id : Int} : draft.reading id = .ok (draft.item id) ↔
    draft.fetchedAt.HasFourDigitYear ∧ ∀ t ∈ draft.publishedAt, t.HasFourDigitYear := by
  unfold Draft.reading Draft.unreadable? Draft.unreadable?.fetched?
  cases draft.publishedAt with
  | none =>
    by_cases year : draft.fetchedAt.HasFourDigitYear
    · simp [year]
    · simp [year]
  | some t =>
    by_cases early : t.HasFourDigitYear
    · by_cases year : draft.fetchedAt.HasFourDigitYear
      · simp [early, year]
      · simp [early, year]
    · simp [early]

/-! ### Rows are found -/

theorem Sound.getItem_of_mem {store : Store} (sound : Sound store) {row : Item.Row}
    (member : row ∈ store.items) : store.getItem row.id = row.read := by
  have found : store.items.find? (·.id == row.id) = some row :=
    find?_of_nodup sound.itemIds.nodup member fun other => beq_iff_eq
  simp only [getItem, found]

theorem Sound.getItemNamed_of_mem {store : Store} (sound : Sound store) {row : Item.Row}
    (member : row ∈ store.items) :
    store.getItemNamed row.sourceId row.externalId = row.read.map some := by
  have found : store.items.find? (·.hasKey row.sourceId row.externalId) = some row :=
    find?_of_nodup sound.itemKeys member fun other => item_hasKey_iff
  simp only [getItemNamed, found]

/-- At any later time, an item that was taken is found by its id and by its name. It reads as it was
given exactly if its years have four digits; otherwise the first timestamp of another year cannot be
read. -/
theorem taken_items_read (refused : List String) (ops more : List Operation) {draft : Draft} {id : Int}
    {store : Store}
    (taken : (ops.foldl Operation.apply { Store.empty with refused }).insertItem draft = .ok (id, store)) :
    (more.foldl Operation.apply store).getItem id = draft.reading id ∧
      (more.foldl Operation.apply store).getItemNamed draft.sourceId draft.externalId =
        (draft.reading id).map some ∧
      (draft.reading id = .ok (draft.item id) ↔
        draft.fetchedAt.HasFourDigitYear ∧ ∀ t ∈ draft.publishedAt, t.HasFourDigitYear) := by
  have before := (applyAll_sound (new_sound refused) ops).1
  have after := (insertItem_sound before taken).1
  have sound := (applyAll_sound after more).1
  have inserted : Item.Row.ofDraft id draft ∈ store.items := by
    rw [(insertItem_ok taken).2]
    exact List.mem_append_right _ List.mem_cons_self
  have member := (store.applyAll_items more).subset inserted
  have byId := sound.getItem_of_mem member
  have byName := sound.getItemNamed_of_mem member
  rw [read_ofDraft] at byId byName
  exact ⟨byId, byName, reading_eq_ok_iff⟩

/-- A store that knows one feed. -/
def wireOps : List Operation :=
  [.upsertSource .epoch ⟨"rss", "Wire", "http://f.example/", 1, none, none, .object [], true⟩]

/-- An item that was published at some time, or does not say when. -/
def wireDraft (publishedAt : Option Instant) : Draft :=
  ⟨1, "a", "a", none, none, publishedAt, .epoch, "", "", none, .pending⟩

theorem taken_items_read_undated : ∃ store,
    (wireOps.foldl Operation.apply { Store.empty with refused := [] }).insertItem (wireDraft none) =
      .ok (1, store) ∧
    store.getItem 1 = (wireDraft none).reading 1 ∧
    store.getItemNamed 1 "a" = ((wireDraft none).reading 1).map some ∧
    ((wireDraft none).reading 1 = .ok ((wireDraft none).item 1) ↔
      Instant.epoch.HasFourDigitYear ∧ ∀ t ∈ (none : Option Instant), t.HasFourDigitYear) :=
  ⟨_, rfl, taken_items_read [] wireOps [] rfl⟩

/-- The first instant of the year 10000. -/
def fiveDigitYear : Instant := ⟨253402300800, 0, by decide, by decide, Instant.epoch.small, by decide⟩

/-- Not all that is taken can be read back: a feed may date an entry to the year 10000. -/
theorem year_10000_taken_unread : ¬ ∀ (ops : List Operation) (draft : Draft) (id : Int) (store : Store),
    (ops.foldl Operation.apply .empty).insertItem draft = .ok (id, store) →
      store.getItem id = .ok (draft.item id) := by
  intro all
  have read := all wireOps (wireDraft (some fiveDigitYear)) 1 _ rfl
  have found : (Item.Row.ofDraft 1 (wireDraft (some fiveDigitYear))).read =
      .ok ((wireDraft (some fiveDigitYear)).item 1) := read
  have unread : (wireDraft (some fiveDigitYear)).unreadable? = some (6, fiveDigitYear) := by decide
  simp [read_ofDraft, Draft.reading, unread] at found

end Store

end Harvest
