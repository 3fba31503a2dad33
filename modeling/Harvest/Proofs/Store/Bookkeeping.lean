import Harvest.Collect.Window
import Harvest.Proofs.Store.Frame
import Harvest.Proofs.Time.Timestamp

/-!
The bookkeeping of a source as a value of its own: what its runs so far amount to. A row keeps its
bookkeeping in columns of text; notes of success and failure change both alike, and a refresh of the
row changes neither.
-/

namespace Harvest

/-- An instant as it is after it was stored and read back. -/
def Instant.IsStored (t : Instant) : Prop := t.HasFourDigitYear ∧ t.truncateMicros = t

theorem Instant.truncateMicros_isStored {t : Instant} (year : t.HasFourDigitYear) :
    t.truncateMicros.IsStored :=
  ⟨year, truncateMicros_idem t⟩

/-- What the runs of a source amount to. -/
structure Bookkeeping where
  /-- The latest start of a run that went well. -/
  watermark : Option Instant
  /-- The end of the last run that went well. -/
  lastFetched : Option Instant
  /-- How many runs failed since then. -/
  failures : Nat
  lastError : Option String

namespace Bookkeeping

def new : Bookkeeping := ⟨none, none, 0, none⟩

def succeed (book : Bookkeeping) (begun ended : Instant) : Bookkeeping where
  watermark := some (book.watermark.elim begun.truncateMicros (max · begun.truncateMicros))
  lastFetched := some ended.truncateMicros
  failures := 0
  lastError := none

def fail (book : Bookkeeping) (text : String) : Bookkeeping :=
  { book with failures := book.failures + 1, lastError := some (Store.clipError text) }

end Bookkeeping

namespace Source.Row

/-- The columns of a row that runs keep, and their meaning. -/
structure Keeps (row : Row) (book : Bookkeeping) : Prop where
  watermark : row.watermark = book.watermark.map Rfc3339.micros
  lastFetched : row.lastFetchedAt = book.lastFetched.map Rfc3339.micros
  failures : row.errorCount = book.failures
  lastError : row.lastError = book.lastError
  marked : ∀ t ∈ book.watermark, t.IsStored
  fetched : ∀ t ∈ book.lastFetched, t.IsStored

/-- The columns of times that every write leaves readable. -/
structure IsDated (row : Row) : Prop where
  created : ∃ t : Instant, t.HasFourDigitYear ∧ row.createdAt = Rfc3339.micros t
  updated : ∃ t : Instant, t.HasFourDigitYear ∧ row.updatedAt = Rfc3339.micros t

variable {row : Row} {book : Bookkeeping} {id : Int} {now begun ended : Instant} {draft : Draft}

theorem ofDraft_keeps : (ofDraft id now draft).Keeps .new :=
  ⟨rfl, rfl, rfl, rfl, fun _ => nofun, fun _ => nofun⟩

theorem refresh_keeps (keeps : row.Keeps book) : (row.refresh now draft).Keeps book :=
  ⟨keeps.watermark, keeps.lastFetched, keeps.failures, keeps.lastError, keeps.marked, keeps.fetched⟩

private theorem optionalInstant_micros {t : Option Instant} (stored : ∀ u ∈ t, u.IsStored) (index : Nat) :
    Store.Column.optionalInstant index (t.map Rfc3339.micros) = .ok t := by
  cases t with
  | none => rfl
  | some u =>
    simp [Store.Column.optionalInstant, Store.Column.instant, Rfc3339.parse?_micros (stored u rfl).1,
      (stored u rfl).2, Except.map]

private theorem instant_micros {text : String}
    (dated : ∃ t : Instant, t.HasFourDigitYear ∧ text = Rfc3339.micros t) (index : Nat) :
    ∃ t, Store.Column.instant index text = .ok t := by
  obtain ⟨t, year, rfl⟩ := dated
  exact ⟨t.truncateMicros, by simp [Store.Column.instant, Rfc3339.parse?_micros year]⟩

private theorem count_few {n : Nat} (few : n < 2 ^ 32) (index : Nat) (name : String) :
    Store.Column.count index name n = .ok n := by
  unfold Store.Column.count
  rw [Nat.pow_eq, Nat.pow_eq, if_neg (by omega), if_pos (by omega)]
  rfl

private theorem count_many {n : Nat} (many : ¬ n < 2 ^ 32) (index : Nat) (name : String) :
    ∃ e, Store.Column.count index name n = .error e := by
  unfold Store.Column.count
  rw [Nat.pow_eq, Nat.pow_eq]
  split
  · exact ⟨_, rfl⟩
  · rw [if_neg (by omega)]
    exact ⟨_, rfl⟩

theorem Keeps.watermark_read (keeps : row.Keeps book) :
    Store.Column.optionalInstant 10 row.watermark = .ok book.watermark :=
  keeps.watermark ▸ optionalInstant_micros keeps.marked 10

theorem Keeps.lastFetched_read (keeps : row.Keeps book) :
    Store.Column.optionalInstant 9 row.lastFetchedAt = .ok book.lastFetched :=
  keeps.lastFetched ▸ optionalInstant_micros keeps.fetched 9

/-- Whether a row can be read: its configuration must be a document, and its failures a number of 32
bits. -/
def IsReadable (row : Row) (book : Bookkeeping) : Prop :=
  (Json.parse? row.config.toList).isSome = true ∧ book.failures < 2 ^ 32

theorem read_spec (keeps : row.Keeps book) (dated : row.IsDated) :
    (row.IsReadable book ∧
      ∃ source, row.read = .ok source ∧ source.id = row.id ∧ source.watermark = book.watermark) ∨
      (¬ row.IsReadable book ∧ ∃ e, row.read = .error e) := by
  obtain ⟨created, createdAt⟩ := instant_micros dated.created 13
  obtain ⟨updated, updatedAt⟩ := instant_micros dated.updated 14
  unfold read readConfig IsReadable
  rw [keeps.watermark_read, keeps.lastFetched_read, keeps.failures, createdAt, updatedAt]
  cases Json.parse? row.config.toList with
  | none => exact Or.inr ⟨nofun, _, rfl⟩
  | some config =>
    by_cases few : book.failures < 2 ^ 32
    · rw [count_few few]
      exact Or.inl ⟨⟨rfl, few⟩, _, rfl, rfl, rfl⟩
    · obtain ⟨e, tooMany⟩ := count_many few 11 "error_count"
      rw [tooMany]
      exact Or.inr ⟨fun both => few both.2, _, rfl⟩

end Source.Row

/-! ### The rows of a store -/

namespace Store

def feedRow? (store : Store) (url : String) : Option Source.Row := store.sourceRowAt? "rss" url

/-- The bookkeeping of the feed at an address, which is new for a feed without a row. -/
def KeepsAt (store : Store) (url : String) (book : Bookkeeping) : Prop :=
  match store.feedRow? url with
  | some row => row.Keeps book
  | none => book = .new

/-- A store whose rows are feeds with a bookkeeping. -/
structure IsKept (store : Store) : Prop where
  sound : Sound store
  rows : ∀ sourceType url row, store.sourceRowAt? sourceType url = some row →
    sourceType = "rss" ∧ row.IsDated ∧ ∃ book, row.Keeps book

variable {store later : Store} {url : String} {row : Source.Row} {book : Bookkeeping}

theorem IsKept.keepsAt (kept : IsKept store) (url : String) : ∃ book, store.KeepsAt url book := by
  unfold KeepsAt
  cases found : store.feedRow? url with
  | none => exact ⟨.new, rfl⟩
  | some row => exact (kept.rows _ _ row found).2.2

theorem KeepsAt.congr (keeps : store.KeepsAt url book) (same : later.feedRow? url = store.feedRow? url) :
    later.KeepsAt url book := by
  unfold KeepsAt at *
  rwa [same]

/-- Resolving a source adds or refreshes its row, which keeps what was kept of it. -/
theorem IsKept.resolve (kept : IsKept store) {now : Instant} (year : now.HasFourDigitYear)
    {draft : Source.Draft} (rss : draft.sourceType = "rss")
    (score : draft.credibility.isNaN = false) :
    ∃ later row, store.upsertSource now draft = (later, row.read) ∧ IsKept later ∧
      later.feedRow? draft.url = some row ∧ row.IsDated ∧ row.config = draft.config.sorted.render ∧
      (∀ book, store.KeepsAt draft.url book → row.Keeps book) ∧
      ∀ other, other ≠ draft.url → later.feedRow? other = store.feedRow? other := by
  obtain ⟨later, row, put, found, made, answer⟩ := store.upsertSource_spec now score
  have elsewhere := (putSource_at put).2
  rw [rss] at found made elsewhere
  have keeps : ∀ book, store.KeepsAt draft.url book → row.Keeps book := by
    intro book keeps
    unfold KeepsAt feedRow? at keeps
    cases before : store.sourceRowAt? "rss" draft.url with
    | none =>
      rw [before] at made keeps
      rw [made, keeps]
      exact Source.Row.ofDraft_keeps
    | some old =>
      rw [before] at made keeps
      rw [made]
      exact Source.Row.refresh_keeps keeps
  have dated : row.IsDated := by
    cases before : store.sourceRowAt? "rss" draft.url with
    | none =>
      rw [before] at made
      rw [made]
      exact ⟨⟨now, year, rfl⟩, ⟨now, year, rfl⟩⟩
    | some old =>
      rw [before] at made
      rw [made]
      exact ⟨(kept.rows _ _ old before).2.1.created, ⟨now, year, rfl⟩⟩
  refine ⟨later, row, answer, ⟨(putSource_sound kept.sound put).1, ?_⟩, found, dated, ?_, keeps, ?_⟩
  · intro sourceType url' other there
    by_cases differ : (sourceType, url') = ("rss", draft.url)
    · obtain ⟨rfl, rfl⟩ := Prod.mk.inj differ
      cases found.symm.trans there
      obtain ⟨book, before⟩ := kept.keepsAt draft.url
      exact ⟨rfl, dated, book, keeps book before⟩
    · rw [elsewhere _ _ differ] at there
      exact kept.rows _ _ other there
  · rw [made]
    cases store.sourceRowAt? "rss" draft.url with
    | none => rfl
    | some old => rfl
  · intro other differ
    exact elsewhere "rss" other fun same => differ (Prod.mk.inj same).2

theorem IsKept.insertItem (kept : IsKept store) {draft : Item.Draft} {id : Int}
    (ok : store.insertItem draft = .ok (id, later)) :
    IsKept later ∧ ∀ url, later.feedRow? url = store.feedRow? url := by
  have sources : later.sources = store.sources := by rw [(insertItem_ok ok).2]
  have rows (sourceType url : String) : later.sourceRowAt? sourceType url = store.sourceRowAt? sourceType url := by
    unfold sourceRowAt?
    rw [sources]
  refine ⟨⟨(insertItem_sound kept.sound ok).1, fun sourceType url row found => ?_⟩, rows "rss"⟩
  rw [rows] at found
  exact kept.rows _ _ row found

end Store

end Harvest
