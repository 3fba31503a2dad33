import Harvest.Store.Column
import Harvest.Store.Status

/-!
Items: collected entries, each owned by a source. A row is an item as stored, its timestamps and its
status being text.
-/

namespace Harvest

/-- An item about to be stored. -/
structure Item.Draft where
  sourceId : Int
  /-- What identifies the item within its source. -/
  externalId : String
  url : String
  title : Option String
  author : Option String
  publishedAt : Option Instant
  fetchedAt : Instant
  content : String
  hash : String
  language : Option String
  status : ItemStatus
  deriving DecidableEq

/-- A stored item. -/
structure Item where
  id : Int
  sourceId : Int
  externalId : String
  url : String
  title : Option String
  author : Option String
  publishedAt : Option Instant
  fetchedAt : Instant
  content : String
  hash : String
  language : Option String
  status : ItemStatus
  errorMessage : Option String
  deriving DecidableEq

/-- An item as stored. -/
structure Item.Row where
  id : Int
  sourceId : Int
  externalId : String
  url : String
  title : Option String
  author : Option String
  publishedAt : Option String
  fetchedAt : String
  content : String
  hash : String
  language : Option String
  status : String
  errorMessage : Option String
  deriving DecidableEq

namespace Item.Row

/-- The row of a new item. -/
def ofDraft (id : Int) (draft : Draft) : Row :=
  { id, sourceId := draft.sourceId, externalId := draft.externalId, url := draft.url
    title := draft.title, author := draft.author
    publishedAt := draft.publishedAt.map Rfc3339.micros, fetchedAt := Rfc3339.micros draft.fetchedAt
    content := draft.content, hash := draft.hash, language := draft.language
    status := draft.status.name, errorMessage := none }

/-- Whether the row is that of the source's item with this name. -/
def hasKey (sourceId : Int) (externalId : String) (row : Row) : Bool :=
  row.sourceId == sourceId && row.externalId == externalId

/-- The status a text names. -/
def readStatus (text : String) : Except Store.Error ItemStatus :=
  match ItemStatus.ofName? text with
  | some status => .ok status
  | none => .error (.conversion 11 ("unknown processing status: " ++ text))

/-- The item in a row. -/
def read (row : Row) : Except Store.Error Item := do
  let status ← readStatus row.status
  let publishedAt ← Store.Column.optionalInstant 6 row.publishedAt
  let fetchedAt ← Store.Column.instant 7 row.fetchedAt
  return { id := row.id, sourceId := row.sourceId, externalId := row.externalId, url := row.url
           title := row.title, author := row.author, publishedAt, fetchedAt
           content := row.content, hash := row.hash, language := row.language, status
           errorMessage := row.errorMessage }

end Item.Row

end Harvest
