import Harvest.Store.Duplicate

/-!
Admission of an item to the store: what becomes of an entry, and the step that stores its item. An
item that its source has already is no error.
-/

namespace Harvest.Collect

/-- Why an entry was not stored. -/
inductive SkipReason where
  /-- Neither its link nor its id is an address. -/
  | noLink
  /-- It has no text anywhere. -/
  | noContent
  | duplicate (matchedOn : Store.Match)
  /-- Its source has an item of its name already. -/
  | conflict
  deriving DecidableEq

/-- What became of an entry. -/
inductive EntryOutcome where
  | stored (id : Int)
  | skipped (reason : SkipReason)
  deriving DecidableEq

/-- Stores an item that its source does not have yet. -/
def storeItem (store : Store) (draft : Item.Draft) : Store × Except Store.Error EntryOutcome :=
  match store.insertItem draft with
  | .ok (id, store) => (store, .ok (.stored id))
  | .error e => (store, if e.isConflict then .ok (.skipped .conflict) else .error e)

end Harvest.Collect
