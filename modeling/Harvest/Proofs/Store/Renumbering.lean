import Harvest.Proofs.Store.Frame
import Mathlib.Data.List.Perm.Basic
import Mathlib.Logic.Equiv.Basic

/-!
Stores that are the same but for the ids of their later rows. Ids are given in the order of the writes:
where two writers take turns in another order, their rows get other ids, and stand elsewhere in the
tables.
-/

namespace Harvest.Store

/-! ### Exchanges of ids -/

/-- Exchanges two blocks of ids, the first `m` and the next `n` that follow an id. -/
def exchange (last : Int) (m n : Nat) : Equiv.Perm Int where
  toFun id := if last < id ∧ id ≤ last + m then id + n
    else if last + m < id ∧ id ≤ last + m + n then id - m else id
  invFun id := if last < id ∧ id ≤ last + n then id + m
    else if last + n < id ∧ id ≤ last + n + m then id - n else id
  left_inv id := by grind
  right_inv id := by grind

variable {last id : Int} {m n : Nat}

/-- New ids for rows that come after an earlier store. -/
structure Renumbering (earlier : Store) where
  source : Equiv.Perm Int
  item : Equiv.Perm Int
  source_kept : ∀ id, id ≤ earlier.lastSourceId → source id = id
  item_kept : ∀ id, id ≤ earlier.lastItemId → item id = id

namespace Renumbering

variable {earlier : Store}

def refl (earlier : Store) : Renumbering earlier :=
  ⟨Equiv.refl Int, Equiv.refl Int, fun _ _ => rfl, fun _ _ => rfl⟩

def sourceRow (ρ : Renumbering earlier) (row : Source.Row) : Source.Row := { row with id := ρ.source row.id }

def itemRow (ρ : Renumbering earlier) (row : Item.Row) : Item.Row :=
  { row with id := ρ.item row.id, sourceId := ρ.source row.sourceId }

/-- One store has the rows of another under new ids. -/
structure Takes (ρ : Renumbering earlier) (a b : Store) : Prop where
  sources : (a.sources.map ρ.sourceRow).Perm b.sources
  items : (a.items.map ρ.itemRow).Perm b.items
  lastSourceId : b.lastSourceId = a.lastSourceId
  lastItemId : b.lastItemId = a.lastItemId
  refused : b.refused = a.refused

theorem Takes.refl (earlier store : Store) : (Renumbering.refl earlier).Takes store store := by
  have sources : (Renumbering.refl earlier).sourceRow = id := rfl
  have items : (Renumbering.refl earlier).itemRow = id := rfl
  refine ⟨?_, ?_, rfl, rfl, rfl⟩
  · rw [sources, List.map_id]
  · rw [items, List.map_id]

end Renumbering

end Harvest.Store
