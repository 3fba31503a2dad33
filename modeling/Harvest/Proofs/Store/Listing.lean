import Harvest.Proofs.Store.Bookkeeping
import Mathlib.Data.Prod.Lex
import Mathlib.Data.String.Basic

/-!
Listing the sources of a store. Whatever is written at times whose years have four digits, the columns
of times stay readable; so a source is listed unless its configuration nests too deeply or its failures
are too many, and the first such source, by name and id, is what a listing fails with.
-/

namespace Harvest

/-- Where a source stands among others: by name, and by id within a name. -/
def Source.place (source : Source) : Lex (String × Int) := toLex (source.name, source.id)

namespace Source.Row

def place (row : Row) : Lex (String × Int) := toLex (row.name, row.id)

/-- Whether a row has a document for its configuration, and no more failures than 32 bits count. -/
def IsLegible (row : Row) : Prop :=
  (Json.parse? row.config.toList).isSome = true ∧ row.errorCount < 2 ^ 32

instance (row : Row) : Decidable row.IsLegible := inferInstanceAs (Decidable (_ ∧ _))

/-- The columns of a row as writes leave them. -/
def IsFiled (row : Row) : Prop := row.IsDated ∧ ∃ book, row.Keeps book

variable {row : Row} {id : Int} {now windowEnd fetchedAt : Instant} {draft : Draft}

theorem ofDraft_isFiled (year : now.HasFourDigitYear) : (ofDraft id now draft).IsFiled :=
  ⟨⟨⟨now, year, rfl⟩, ⟨now, year, rfl⟩⟩, .new, ofDraft_keeps⟩

theorem refresh_isFiled (filed : row.IsFiled) (year : now.HasFourDigitYear) :
    (row.refresh now draft).IsFiled := by
  obtain ⟨dated, book, keeps⟩ := filed
  exact ⟨⟨dated.created, ⟨now, year, rfl⟩⟩, book, refresh_keeps keeps⟩

theorem fail_isFiled (filed : row.IsFiled) (error : String) (year : now.HasFourDigitYear) :
    (row.fail error now).IsFiled := by
  obtain ⟨dated, book, keeps⟩ := filed
  refine ⟨⟨dated.created, ⟨now, year, rfl⟩⟩,
    { book with failures := book.failures + 1, lastError := some error }, ?_⟩
  exact ⟨keeps.watermark, keeps.lastFetched, by simp [fail, keeps.failures], rfl, keeps.marked,
    keeps.fetched⟩

/-- Whichever of two watermarks a success keeps, it is the text of a stored instant. -/
theorem succeed_isFiled (filed : row.IsFiled) (year : windowEnd.HasFourDigitYear)
    (year' : fetchedAt.HasFourDigitYear) : (row.succeed windowEnd fetchedAt).IsFiled := by
  obtain ⟨dated, book, keeps⟩ := filed
  have reached := Instant.truncateMicros_isStored year
  have text := Rfc3339.micros_truncateMicros windowEnd
  have marked : ∃ mark : Instant, mark.IsStored ∧
      (row.succeed windowEnd fetchedAt).watermark = some (Rfc3339.micros mark) := by
    have column := keeps.watermark
    cases known : book.watermark with
    | none =>
      rw [known] at column
      exact ⟨_, reached, by simp [succeed, column, text]⟩
    | some mark =>
      rw [known] at column
      by_cases ahead : Rfc3339.micros mark < Rfc3339.micros windowEnd
      · exact ⟨_, reached, by simp [succeed, column, ahead, text]⟩
      · exact ⟨mark, keeps.marked mark known, by simp [succeed, column, ahead]⟩
  obtain ⟨mark, stored, watermark⟩ := marked
  refine ⟨⟨dated.created, ⟨fetchedAt, year', rfl⟩⟩, ⟨mark, fetchedAt.truncateMicros, 0, none⟩, ?_⟩
  refine ⟨watermark, ?_, rfl, rfl, ?_, ?_⟩
  · simp [succeed, Rfc3339.micros_truncateMicros]
  · rintro _ ⟨⟩
    exact stored
  · rintro _ ⟨⟩
    exact Instant.truncateMicros_isStored year'

/-! ### Reading rows -/

/-- As its times can be read, a row is read exactly if it is legible. -/
theorem IsFiled.isLegible_iff (filed : row.IsFiled) : row.IsLegible ↔ ∃ source, row.read = .ok source := by
  obtain ⟨dated, book, keeps⟩ := filed
  have same : row.IsLegible ↔ row.IsReadable book := by
    unfold IsLegible IsReadable
    rw [keeps.failures]
    exact and_congr_right fun _ => by omega
  rw [same]
  rcases read_spec keeps dated with ⟨readable, source, ok, -⟩ | ⟨unreadable, e, failed⟩
  · exact ⟨fun _ => ⟨source, ok⟩, fun _ => readable⟩
  · rw [failed]
    exact ⟨fun readable => absurd readable unreadable, fun ⟨_, ok⟩ => nomatch ok⟩

end Source.Row

namespace Store

/-- The times that a write notes with sources have years of four digits. -/
def Operation.IsDated : Operation → Prop
  | upsertSource now _ => now.HasFourDigitYear
  | recordSuccess _ windowEnd fetchedAt => windowEnd.HasFourDigitYear ∧ fetchedAt.HasFourDigitYear
  | recordFailure _ _ now => now.HasFourDigitYear
  | insertItem _ => True

/-- A store with nothing in it but what dated writes leave. -/
structure IsFiled (store : Store) : Prop where
  sound : Sound store
  sources : ∀ row ∈ store.sources, row.IsFiled
  statuses : ∀ row ∈ store.items, ∃ status : ItemStatus, row.status = status.name

variable {store later : Store}

theorem updateSource_rows {id : Int} {change : Source.Row → Source.Row}
    (ok : store.updateSource id change = .ok later) {row : Source.Row} (member : row ∈ later.sources) :
    row ∈ store.sources ∨ ∃ old ∈ store.sources, row = change old := by
  unfold updateSource at ok
  split at ok
  · cases ok
    obtain ⟨old, present, rfl⟩ := List.mem_map.mp member
    split
    · exact Or.inr ⟨old, present, rfl⟩
    · exact Or.inl present
  · cases ok

theorem putSource_rows {now : Instant} {draft : Source.Draft}
    (ok : store.putSource now draft = .ok later) {row : Source.Row} (member : row ∈ later.sources) :
    row ∈ store.sources ∨ (∃ old ∈ store.sources, row = old.refresh now draft) ∨
      row = Source.Row.ofDraft (store.lastSourceId + 1) now draft := by
  unfold putSource at ok
  split at ok
  · cases ok
  dsimp only at ok
  split at ok
  · cases ok
    obtain ⟨old, present, rfl⟩ := List.mem_map.mp member
    split
    · exact Or.inr (Or.inl ⟨old, present, rfl⟩)
    · exact Or.inl present
  · cases ok
    rcases List.mem_append.mp member with present | new
    · exact Or.inl present
    · exact Or.inr (Or.inr (List.mem_singleton.mp new))

/-- A write to sources that is not granted changes nothing, and one that is granted leaves every row
as filed as it was. -/
private theorem noted_sources {id : Int} {change : Source.Row → Source.Row} (filed : IsFiled store)
    (keeps : ∀ row : Source.Row, row.IsFiled → (change row).IsFiled) :
    ∀ row ∈ ((store.updateSource id change).toOption.getD store).sources, row.IsFiled := by
  intro row member
  cases done : store.updateSource id change with
  | error e =>
    rw [done] at member
    exact filed.sources row member
  | ok later =>
    rw [done] at member
    rcases updateSource_rows done member with old | ⟨old, present, rfl⟩
    · exact filed.sources row old
    · exact keeps old (filed.sources old present)

private theorem apply_sources (filed : IsFiled store) {op : Operation} (dated : op.IsDated) :
    ∀ row ∈ (op.apply store).sources, row.IsFiled := by
  cases op with
  | upsertSource now draft =>
    intro row member
    simp only [Operation.apply, upsertSource] at member
    split at member
    · exact filed.sources row member
    next put =>
      rcases putSource_rows put member with old | ⟨old, present, rfl⟩ | rfl
      · exact filed.sources row old
      · exact Source.Row.refresh_isFiled (filed.sources old present) dated
      · exact Source.Row.ofDraft_isFiled dated
  | recordSuccess id windowEnd fetchedAt =>
    exact noted_sources filed fun row kept => Source.Row.succeed_isFiled kept dated.1 dated.2
  | recordFailure id error now =>
    exact noted_sources filed fun row kept => Source.Row.fail_isFiled kept error dated
  | insertItem draft =>
    intro row member
    simp only [Operation.apply] at member
    cases done : store.insertItem draft with
    | error e =>
      rw [done] at member
      exact filed.sources row member
    | ok answer =>
      obtain ⟨id, later⟩ := answer
      obtain ⟨-, rfl⟩ := insertItem_ok done
      rw [done] at member
      exact filed.sources row member

theorem apply_isFiled (filed : IsFiled store) {op : Operation} (dated : op.IsDated) :
    IsFiled (op.apply store) := by
  refine ⟨(apply_sound filed.sound op).1, apply_sources filed dated, ?_⟩
  intro row member
  rcases store.apply_items_cases op with same | ⟨draft, id, -, added⟩
  · exact filed.statuses row (same ▸ member)
  · rw [added] at member
    rcases List.mem_append.mp member with old | new
    · exact filed.statuses row old
    · exact ⟨draft.status, by rw [List.mem_singleton.mp new, Item.Row.ofDraft]⟩

theorem applyAll_isFiled (filed : IsFiled store) {ops : List Operation} (dated : ∀ op ∈ ops, op.IsDated) :
    IsFiled (ops.foldl Operation.apply store) := by
  induction ops generalizing store with
  | nil => exact filed
  | cons op rest ih =>
    obtain ⟨first, others⟩ := List.forall_mem_cons.mp dated
    exact ih (apply_isFiled filed first) others

theorem new_isFiled (refused : List String) : IsFiled { Store.empty with refused } :=
  ⟨new_sound refused, fun _ => nofun, fun _ => nofun⟩

/-! ### Listing -/

/-- Rows and what was read of them. -/
abbrev Listed (rows : List Source.Row) (sources : List Source) : Prop :=
  List.Forall₂ (fun row source => row.read = .ok source) rows sources

theorem Listed.filter {rows : List Source.Row} {sources : List Source} (listed : Listed rows sources)
    {shows : Source.Row → Bool} {pick : Source → Bool}
    (same : ∀ row source, row.read = .ok source → pick source = shows row) :
    Listed (rows.filter shows) (sources.filter pick) := by
  refine List.rel_filter ?_ listed
  intro row source read
  change shows row = true ↔ pick source = true
  rw [same row source read]

end Store

end Harvest
