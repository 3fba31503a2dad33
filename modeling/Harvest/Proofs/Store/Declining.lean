import Harvest.Collect.Admission
import Harvest.Proofs.Store.Duplicate
import Harvest.Proofs.Store.Frame
import Harvest.Proofs.Time.Timestamp

/-!
Items that a store does not take in: something like them lies in the window of days, or their source has
an item of their name. A store that declines an item goes on to do so while it grows, as long as nothing
leaves the window.
-/

namespace Harvest

/-- Whether the item lies in the window of days at an instant, and at a later one not any more. -/
def Item.Row.leavesWindow (days : Nat) (earlier later : Instant) (row : Item.Row) : Bool :=
  (Rfc3339.parse? row.fetchedAt).any fun t =>
    (Store.daysBefore? earlier days).any (fun cutoff => cutoff.truncateMicros ≤ t) &&
      (Store.daysBefore? later days).any fun cutoff => t < cutoff.truncateMicros

namespace Store

/-- Every item was fetched at an instant of a kind. -/
def Dated (fetched : Instant → Prop) (store : Store) : Prop :=
  ∀ row ∈ store.items, ∃ t, fetched t ∧ row.fetchedAt = Rfc3339.micros t

theorem Dated.apply {fetched : Instant → Prop} {store : Store} (dated : store.Dated fetched) (op : Operation)
    (kind : ∀ draft, op = .insertItem draft → fetched draft.fetchedAt) : (op.apply store).Dated fetched := by
  intro row member
  rcases store.apply_items_cases op with same | ⟨draft, id, is, added⟩
  · exact dated row (same ▸ member)
  · rw [added] at member
    rcases List.mem_append.mp member with old | new
    · exact dated row old
    · cases List.mem_singleton.mp new
      exact ⟨draft.fetchedAt, kind draft is, rfl⟩

/-- Something like the item lies in the window, or its source has an item of its name. -/
def Declines (store : Store) (now : Instant) (days : Nat) (sourceId : Int) (identity : Identity) : Prop :=
  (∃ duplicate, store.findDuplicate? now days identity = some (some duplicate)) ∨
    store.refuses identity.url = false ∧ store.items.any (·.hasKey sourceId identity.externalId) = true

variable {store later : Store} {now : Instant} {days : Nat} {sourceId : Int} {identity : Identity}

theorem Declines.grown (declines : store.Declines now days sourceId identity)
    (items : store.items <+: later.items) (refused : later.refused = store.refused) :
    later.Declines now days sourceId identity := by
  rcases declines with found | ⟨accepted, present⟩
  · obtain ⟨window, cutoff, reach, row, member, like⟩ := findDuplicate?_found_iff.mp found
    exact Or.inl (findDuplicate?_found_iff.mpr ⟨window, cutoff, reach, row, items.subset member, like⟩)
  · obtain ⟨row, member, has⟩ := List.any_eq_true.mp present
    exact Or.inr ⟨(refuses_eq refused _).trans accepted,
      List.any_eq_true.mpr ⟨row, items.subset member, has⟩⟩

/-- While nothing leaves the window, an item in it is found at the later instant, too. -/
theorem Declines.still {last : Instant} (declines : store.Declines now days sourceId identity)
    (dated : store.Dated Instant.HasFourDigitYear) (year : now.HasFourDigitYear)
    (year' : last.HasFourDigitYear) (reach : (daysBefore? last days).isSome = true)
    (stays : 0 < days → ∀ row ∈ store.items, row.leavesWindow days now last = false) :
    store.Declines last days sourceId identity := by
  rcases declines with found | present
  · obtain ⟨window, cutoff, reached, row, member, like, within⟩ := findDuplicate?_found_iff.mp found
    obtain ⟨cutoff', reaches⟩ := Option.isSome_iff_exists.mp reach
    refine Or.inl (findDuplicate?_found_iff.mpr ⟨window, cutoff', reaches, row, member, like, ?_⟩)
    obtain ⟨t, fetched, text⟩ := dated row member
    -- A cutoff may lie before the years of four digits, but not behind them.
    have cutoffYear := Int.le_trans (Instant.year_mono (Instant.minus_secs reached)) year.2
    have cutoffYear' := Int.le_trans (Instant.year_mono (Instant.minus_secs reaches)) year'.2
    rw [text] at within ⊢
    rw [Rfc3339.micros_le_iff cutoffYear fetched] at within
    rw [Rfc3339.micros_le_iff cutoffYear' fetched]
    have stays := stays window row member
    unfold Item.Row.leavesWindow at stays
    rw [text, Rfc3339.parse?_micros fetched, reached, reaches] at stays
    simpa [within] using stays
  · exact Or.inr present

/-- An item of its name stands in the way of another from the same source. -/
theorem storeItem_present {draft : Item.Draft} (accepted : store.refuses draft.url = false)
    (present : store.items.any (·.hasKey draft.sourceId draft.externalId) = true) :
    Collect.storeItem store draft = (store, .ok (.skipped .conflict)) := by
  unfold Collect.storeItem insertItem
  rw [accepted, present]
  rfl

/-- After an item was stored, or was there before, one of its name is there. -/
theorem storeItem_ok {draft : Item.Draft} {outcome : Collect.EntryOutcome}
    (done : Collect.storeItem store draft = (later, .ok outcome)) : later.refuses draft.url = false ∧
      later.items.any (·.hasKey draft.sourceId draft.externalId) = true := by
  unfold Collect.storeItem insertItem at done
  cases refused : store.refuses draft.url with
  | true => simp [refused, Error.isConflict] at done
  | false =>
    cases present : store.items.any (·.hasKey draft.sourceId draft.externalId) with
    | true =>
      simp [refused, present, Error.isConflict] at done
      exact done.1 ▸ ⟨refused, present⟩
    | false =>
      cases owned : store.sources.any (·.id == draft.sourceId) with
      | false => simp [refused, present, owned, Error.isConflict] at done
      | true =>
        simp only [refused, present, owned] at done
        cases done
        refine ⟨refused, ?_⟩
        simp [Item.Row.hasKey, Item.Row.ofDraft]

end Store

end Harvest
