import Harvest.Store.Duplicate
import Mathlib.Tactic.Common

/-!
When an entry is a duplicate. Something is found exactly if an item that the entry is like was fetched
at the cutoff or later, by the text of its timestamp.
-/

namespace Harvest.Store

variable {store : Store} {cutoff now : Instant} {identity : Identity}

theorem matchOf?_isSome_iff {row : Item.Row} : (identity.matchOf? row).isSome = true ↔
    row.externalId = identity.externalId ∨ row.url = identity.url ∨ row.hash = identity.hash := by
  unfold Identity.matchOf?
  split
  next same => simp [eq_of_beq same]
  split
  next same => simp [eq_of_beq same]
  split
  next same => simp [eq_of_beq same]
  next noId noUrl noHash =>
    simp only [beq_iff_eq] at noId noUrl noHash
    simp [noId, noUrl, noHash]

theorem latestFetched?_mem {rows : List Item.Row} {row : Item.Row}
    (latest : latestFetched? rows = some row) : row ∈ rows := by
  induction rows generalizing row with
  | nil => cases latest
  | cons first rest ih =>
    unfold latestFetched? at latest
    split at latest
    next later found =>
      split at latest
      · cases latest
        exact List.mem_cons_of_mem _ (ih found)
      · cases latest
        exact List.mem_cons_self
    · cases latest
      exact List.mem_cons_self

theorem latestFetched?_cons (first : Item.Row) (rest : List Item.Row) :
    (latestFetched? (first :: rest)).isSome = true := by
  unfold latestFetched?
  split
  · split <;> rfl
  · rfl

theorem duplicateSince_isSome_iff : (store.duplicateSince cutoff identity).isSome = true ↔
    ∃ row ∈ store.items, (identity.matchOf? row).isSome = true ∧ Rfc3339.micros cutoff ≤ row.fetchedAt := by
  have among : ∀ row, row ∈ (store.items.filter fun row => (identity.matchOf? row).isSome &&
      decide (Rfc3339.micros cutoff ≤ row.fetchedAt)) ↔ row ∈ store.items ∧
        (identity.matchOf? row).isSome = true ∧ Rfc3339.micros cutoff ≤ row.fetchedAt := by
    intro row
    rw [List.mem_filter, Bool.and_eq_true, decide_eq_true_eq]
  unfold duplicateSince
  dsimp only
  generalize (store.items.filter fun row => (identity.matchOf? row).isSome &&
    decide (Rfc3339.micros cutoff ≤ row.fetchedAt)) = found at among
  constructor
  · intro some
    cases latest : latestFetched? found with
    | none =>
      rw [latest] at some
      cases some
    | some row => exact ⟨row, (among row).mp (latestFetched?_mem latest)⟩
  · rintro ⟨row, like⟩
    obtain ⟨first, rest, rfl⟩ := List.exists_cons_of_ne_nil (List.ne_nil_of_mem ((among row).mpr like))
    obtain ⟨last, latest⟩ := Option.isSome_iff_exists.mp (latestFetched?_cons first rest)
    have matched := ((among last).mp (latestFetched?_mem latest)).2.1
    rw [latest]
    dsimp only
    rw [Option.isSome_map]
    exact matched

theorem findDuplicate?_found_iff {days : Nat} :
    (∃ duplicate, store.findDuplicate? now days identity = some (some duplicate)) ↔
      0 < days ∧ ∃ cutoff, daysBefore? now days = some cutoff ∧ ∃ row ∈ store.items,
        (identity.matchOf? row).isSome = true ∧ Rfc3339.micros cutoff ≤ row.fetchedAt := by
  unfold findDuplicate?
  split
  next none => simp [none]
  next window =>
    simp only [Option.map_eq_some_iff, Nat.pos_of_ne_zero window, true_and, ← duplicateSince_isSome_iff,
      Option.isSome_iff_exists (x := store.duplicateSince _ identity)]
    constructor
    · rintro ⟨duplicate, cutoff, reach, found⟩
      exact ⟨cutoff, reach, duplicate, found⟩
    · rintro ⟨cutoff, reach, duplicate, found⟩
      exact ⟨duplicate, cutoff, reach, found⟩

theorem findDuplicate?_isSome (store : Store) (identity : Identity) {days : Nat}
    (within : (daysBefore? now days).isSome = true) :
    (store.findDuplicate? now days identity).isSome = true := by
  unfold findDuplicate?
  split
  · rfl
  · rw [Option.isSome_map]
    exact within

end Harvest.Store
