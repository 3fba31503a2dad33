import Harvest.Store.Basic

/-!
Duplicates: an entry is one if a stored item fetched within the last days has its external id, its
address or the hash of its content.
-/

namespace Harvest.Store

/-- What an entry shares with a stored item. -/
inductive Match where
  | externalId
  | url
  | hash
  deriving DecidableEq

def Match.name : Match → String
  | externalId => "external_id"
  | url => "url"
  | hash => "content_hash"

/-- A stored item that an entry duplicates. -/
structure Duplicate where
  itemId : Int
  matchedOn : Match
  deriving DecidableEq

/-- What tells entries apart. -/
structure Identity where
  externalId : String
  url : String
  hash : String
  deriving DecidableEq

/-- The first thing that an entry shares with an item. -/
def Identity.matchOf? (identity : Identity) (row : Item.Row) : Option Match :=
  if row.externalId == identity.externalId then some .externalId
  else if row.url == identity.url then some .url
  else if row.hash == identity.hash then some .hash
  else none

/-- The row fetched last; of several the first. -/
def latestFetched? : List Item.Row → Option Item.Row
  | [] => none
  | row :: rest =>
    match latestFetched? rest with
    | some later => if row.fetchedAt < later.fetchedAt then some later else some row
    | none => some row

/-- The item an entry duplicates, among those fetched at `cutoff` or later. Instants are compared as
stored. -/
def duplicateSince (store : Store) (cutoff : Instant) (identity : Identity) : Option Duplicate :=
  let since := Rfc3339.micros cutoff
  let found := store.items.filter fun row =>
    (identity.matchOf? row).isSome && decide (since ≤ row.fetchedAt)
  match latestFetched? found with
  | some row => (identity.matchOf? row).map fun m => ⟨row.id, m⟩
  | none => none

/-- The instant so many days ago. -/
def daysBefore? (now : Instant) (days : Nat) : Option Instant := now.minus (days * 86400)

/-- The item an entry duplicates within a window of days, which may be empty. The outcome is `none`
if the window reaches back beyond the calendar. -/
def findDuplicate? (store : Store) (now : Instant) (windowDays : Nat) (identity : Identity) :
    Option (Option Duplicate) :=
  if windowDays = 0 then some none
  else (daysBefore? now windowDays).map fun cutoff => store.duplicateSince cutoff identity

end Harvest.Store
