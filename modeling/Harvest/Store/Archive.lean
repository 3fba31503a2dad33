import Harvest.Json.Parser
import Harvest.Store.Basic

/-!
The form in which a store is kept in a file: one JSON document with a list of values for each row, in
the order of the columns.
-/

namespace Harvest

namespace Store.Archive

def optional (text : Option String) : Json :=
  match text with
  | some s => .string s
  | none => .null

def text? : Json → Option String
  | .string s => some s
  | _ => none

/-- Reads a text that may be missing. -/
def optional? : Json → Option (Option String)
  | .string s => some (some s)
  | .null => some none
  | _ => none

def number? : Json → Option Int
  | .int n => some n
  | _ => none

/-- The bits of a double as a number. -/
def double (x : Float) : Json := .int x.toBits.toNat

def double? : Json → Option Float
  | .int n => some (Float.ofBits n.toNat.toUInt64)
  | _ => none

/-- Reads every value of a list. -/
def list? {α : Type} (read : Json → Option α) : Json → Option (List α)
  | .array items => items.mapM read
  | _ => none

end Store.Archive

open Store.Archive

def Source.Row.toJson (row : Row) : Json :=
  .array [.int row.id, .string row.sourceType, .string row.name, .string row.url,
    double row.credibility, optional row.tier, optional row.reportingType, .string row.config,
    .int row.active, optional row.lastFetchedAt, optional row.watermark, .int row.errorCount,
    optional row.lastError, .string row.createdAt, .string row.updatedAt]

def Source.Row.ofJson? : Json → Option Row
  | .array [id, sourceType, name, url, credibility, tier, reportingType, config, active,
      lastFetchedAt, watermark, errorCount, lastError, createdAt, updatedAt] => do
    return { id := ← number? id, sourceType := ← text? sourceType, name := ← text? name
             url := ← text? url, credibility := ← double? credibility, tier := ← optional? tier
             reportingType := ← optional? reportingType, config := ← text? config
             active := ← number? active, lastFetchedAt := ← optional? lastFetchedAt
             watermark := ← optional? watermark, errorCount := ← number? errorCount
             lastError := ← optional? lastError, createdAt := ← text? createdAt
             updatedAt := ← text? updatedAt }
  | _ => none

def Item.Row.toJson (row : Row) : Json :=
  .array [.int row.id, .int row.sourceId, .string row.externalId, .string row.url,
    optional row.title, optional row.author, optional row.publishedAt, .string row.fetchedAt,
    .string row.content, .string row.hash, optional row.language, .string row.status,
    optional row.errorMessage]

def Item.Row.ofJson? : Json → Option Row
  | .array [id, sourceId, externalId, url, title, author, publishedAt, fetchedAt, content, hash,
      language, status, errorMessage] => do
    return { id := ← number? id, sourceId := ← number? sourceId, externalId := ← text? externalId
             url := ← text? url, title := ← optional? title, author := ← optional? author
             publishedAt := ← optional? publishedAt, fetchedAt := ← text? fetchedAt
             content := ← text? content, hash := ← text? hash, language := ← optional? language
             status := ← text? status, errorMessage := ← optional? errorMessage }
  | _ => none

namespace Store

def toJson (store : Store) : Json :=
  .array [.array (store.sources.map Source.Row.toJson), .array (store.items.map Item.Row.toJson),
    .int store.lastSourceId, .int store.lastItemId, .array (store.refused.map .string)]

def ofJson? : Json → Option Store
  | .array [sources, items, lastSourceId, lastItemId, refused] => do
    return { sources := ← list? Source.Row.ofJson? sources, items := ← list? Item.Row.ofJson? items
             lastSourceId := ← number? lastSourceId, lastItemId := ← number? lastItemId
             refused := ← list? text? refused }
  | _ => none

/-- The store in a text. -/
def ofText? (text : String) : Option Store := (Json.parse? text.toList).bind ofJson?

end Store

end Harvest
