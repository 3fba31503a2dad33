import Harvest.Store.Item
import Harvest.Store.Source

/-!
The store: a table of sources and a table of items. No two sources share type and address, no two
items of one source share their external id, every item belongs to a source, and ids only grow. A
write that fails leaves both tables as they were.
-/

namespace Harvest

structure Store where
  /-- The rows in the order of their ids. -/
  sources : List Source.Row
  items : List Item.Row
  /-- The last id used up in each table. -/
  lastSourceId : Int
  lastItemId : Int
  /-- Items are refused whose address ends in one of these, in capitals or not. -/
  refused : List String

namespace Store

def empty : Store := ⟨[], [], 0, 0, []⟩

instance : Inhabited Store := ⟨empty⟩

/-! ### Sources -/

/-- The row of the source with this id. -/
def sourceRow? (store : Store) (id : Int) : Option Source.Row := store.sources.find? (·.id == id)

/-- The row of the source at this address. -/
def sourceRowAt? (store : Store) (sourceType url : String) : Option Source.Row :=
  store.sources.find? (·.hasKey sourceType url)

private def missingSource (id : Int) : Error := .sourceNotFound ("Source ID " ++ toString id)

/-- Changes the row of a source. -/
def updateSource (store : Store) (id : Int) (change : Source.Row → Source.Row) :
    Except Error Store :=
  if store.sources.any (·.id == id) then
    .ok { store with sources := store.sources.map fun row => if row.id == id then change row else row }
  else .error (missingSource id)

/-- Adds a source, or refreshes the one at its address. Either way an id is used up. -/
def putSource (store : Store) (now : Instant) (draft : Source.Draft) : Except Error Store :=
  if draft.credibility.isNaN then
    .error (.engine "NOT NULL constraint failed: sources.credibility_score")
  else
    let id := store.lastSourceId + 1
    let same := Source.Row.hasKey draft.sourceType draft.url
    if store.sources.any same then
      .ok { store with
        sources := store.sources.map fun row => if same row then row.refresh now draft else row
        lastSourceId := id }
    else
      .ok { store with
        sources := store.sources ++ [Source.Row.ofDraft id now draft], lastSourceId := id }

/-- The source at this address. -/
def getSourceAt (store : Store) (sourceType url : String) : Except Error (Option Source) :=
  match store.sourceRowAt? sourceType url with
  | some row => row.read.map some
  | none => .ok none

/-- Adds or refreshes a source, and reads it back. -/
def upsertSource (store : Store) (now : Instant) (draft : Source.Draft) :
    Store × Except Error Source :=
  match store.putSource now draft with
  | .error e => (store, .error e)
  | .ok store =>
    (store, do
      match ← store.getSourceAt draft.sourceType draft.url with
      | some source => .ok source
      | none => .error (.sourceNotFound draft.url))

/-- The source with this id. -/
def getSource (store : Store) (id : Int) : Except Error Source :=
  match store.sourceRow? id with
  | some row => row.read
  | none => .error (missingSource id)

/-- Every source, by name. -/
def listSources (store : Store) : Except Error (List Source) :=
  (store.sources.mergeSort Source.Row.precedes).mapM Source.Row.read

/-- Notes a successful run of a source that covered time up to `windowEnd`. -/
def recordSuccess (store : Store) (id : Int) (windowEnd fetchedAt : Instant) : Except Error Store :=
  store.updateSource id (·.succeed windowEnd fetchedAt)

/-- Notes a failed run of a source. -/
def recordFailure (store : Store) (id : Int) (error : String) (now : Instant) : Except Error Store :=
  store.updateSource id (·.fail error now)

/-- How many characters of an error a source keeps. -/
def maxErrorLength : Nat := 1000

/-- The part of an error that a source keeps. -/
def clipError (text : String) : String := String.ofList (text.toList.take maxErrorLength)

/-! ### Items -/

/-- Whether items with this address are refused. -/
def refuses (store : Store) (url : String) : Bool :=
  store.refused.any fun ending =>
    (ending.toList.map Char.toLower).isSuffixOf (url.toList.map Char.toLower)

/-- Adds an item, and gives its id. -/
def insertItem (store : Store) (draft : Item.Draft) : Except Error (Int × Store) :=
  if store.refuses draft.url then .error (.engine "item rejected")
  else if store.items.any (·.hasKey draft.sourceId draft.externalId) then
    .error (.conflict ("item " ++ draft.externalId ++ " already exists for source " ++
      toString draft.sourceId))
  else if store.sources.any (·.id == draft.sourceId) then
    let id := store.lastItemId + 1
    .ok (id, { store with items := store.items ++ [Item.Row.ofDraft id draft], lastItemId := id })
  else .error (.engine "FOREIGN KEY constraint failed")

/-- The item with this id. -/
def getItem (store : Store) (id : Int) : Except Error Item :=
  match store.items.find? (·.id == id) with
  | some row => row.read
  | none => .error (.itemNotFound id)

/-- The item of a source with this external id. -/
def getItemNamed (store : Store) (sourceId : Int) (externalId : String) :
    Except Error (Option Item) :=
  match store.items.find? (·.hasKey sourceId externalId) with
  | some row => row.read.map some
  | none => .ok none

def countItems (store : Store) : Nat := store.items.length

def countItemsWith (store : Store) (status : ItemStatus) : Nat :=
  store.items.countP (·.status == status.name)

def countItemsOf (store : Store) (sourceId : Int) : Nat :=
  store.items.countP (·.sourceId == sourceId)

end Store

end Harvest
