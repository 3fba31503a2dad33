import Harvest.Proofs.Json.Nesting
import Harvest.Proofs.Store.Listing

/-!
Writes that fail. Whatever fails leaves the store as it was, with one exception: an upsert writes its
row first and reads it back afterwards, and a row that cannot be read stays.
-/

namespace Harvest.Store

def errorOf {α : Type} : Except Error α → Option Error
  | .error e => some e
  | .ok _ => none

namespace Operation

/-- The error with which a write fails. -/
def error? (store : Store) : Operation → Option Error
  | upsertSource now draft => errorOf (store.upsertSource now draft).2
  | recordSuccess id windowEnd fetchedAt => errorOf (store.recordSuccess id windowEnd fetchedAt)
  | recordFailure id error now => errorOf (store.recordFailure id error now)
  | insertItem draft => errorOf (store.insertItem draft)

end Operation

theorem errorOf_eq_none {α : Type} {outcome : Except Error α} :
    errorOf outcome = none ↔ ∃ value, outcome = .ok value := by
  cases outcome <;> simp [errorOf]

variable {store : Store}

theorem upsertSource_unscored {draft : Source.Draft} (unscored : draft.credibility.isNaN = true)
    (now : Instant) : store.upsertSource now draft =
      (store, .error (.engine "NOT NULL constraint failed: sources.credibility_score")) := by
  unfold upsertSource putSource
  rw [if_pos unscored]

/-- When an upsert succeeds, at a time and in a store whose times can be read. -/
theorem IsFiled.upsertSource_error?_eq_none_iff (filed : IsFiled store) {now : Instant}
    (year : now.HasFourDigitYear) {draft : Source.Draft} :
    (Operation.upsertSource now draft).error? store = none ↔ draft.credibility.isNaN = false ∧
      (Json.parse? draft.config.sorted.render.toList).isSome = true ∧
      ∀ row, store.sourceRowAt? draft.sourceType draft.url = some row → row.errorCount < 2 ^ 32 := by
  cases score : draft.credibility.isNaN with
  | true => simp [Operation.error?, store.upsertSource_unscored score, errorOf]
  | false =>
    obtain ⟨later, row, -, -, made, answer⟩ := store.upsertSource_spec now score
    simp only [Operation.error?, answer, errorOf_eq_none, true_and]
    cases before : store.sourceRowAt? draft.sourceType draft.url with
    | none =>
      rw [before] at made
      subst made
      rw [← (Source.Row.ofDraft_isFiled year).isLegible_iff]
      simp [Source.Row.IsLegible, Source.Row.ofDraft]
    | some old =>
      rw [before] at made
      subst made
      have kept := filed.sources old (sourceRowAt?_key before).1
      rw [← (Source.Row.refresh_isFiled kept year).isLegible_iff]
      simp [Source.Row.IsLegible, Source.Row.refresh]

/-! ### All writes -/

end Harvest.Store
