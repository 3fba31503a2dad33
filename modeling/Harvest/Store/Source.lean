import Harvest.Json.Parser
import Harvest.Store.Column

/-!
Sources: what is known of a feed from its configuration, and the bookkeeping of its runs. A row is a
source as stored, its configuration and its timestamps being text.
-/

namespace Harvest

/-- A source as its feed describes it. -/
structure Source.Draft where
  sourceType : String
  name : String
  url : String
  credibility : Float
  tier : Option String
  reportingType : Option String
  config : Json
  active : Bool

/-- A source with its bookkeeping. -/
structure Source where
  id : Int
  sourceType : String
  name : String
  url : String
  credibility : Float
  tier : Option String
  reportingType : Option String
  config : Json
  active : Bool
  lastFetchedAt : Option Instant
  /-- Up to where the source has been collected. -/
  watermark : Option Instant
  /-- How many runs failed since the last success. -/
  errorCount : Nat
  lastError : Option String
  createdAt : Instant
  updatedAt : Instant

/-- A source as stored. -/
structure Source.Row where
  id : Int
  sourceType : String
  name : String
  url : String
  credibility : Float
  tier : Option String
  reportingType : Option String
  config : String
  active : Int
  lastFetchedAt : Option String
  watermark : Option String
  errorCount : Int
  lastError : Option String
  createdAt : String
  updatedAt : String

namespace Source

/-- A number as it is stored: there is one zero. -/
def Draft.score (draft : Draft) : Float := if draft.credibility == 0.0 then 0.0 else draft.credibility

namespace Row

/-- The row of a new source. -/
def ofDraft (id : Int) (now : Instant) (draft : Draft) : Row :=
  { id, sourceType := draft.sourceType, name := draft.name, url := draft.url
    credibility := draft.score, tier := draft.tier, reportingType := draft.reportingType
    config := draft.config.sorted.render, active := if draft.active then 1 else 0
    lastFetchedAt := none, watermark := none, errorCount := 0, lastError := none
    createdAt := Rfc3339.micros now, updatedAt := Rfc3339.micros now }

/-- The row with what its feed now says; the bookkeeping of runs stays. -/
def refresh (row : Row) (now : Instant) (draft : Draft) : Row :=
  { row with
    name := draft.name, credibility := draft.score, tier := draft.tier
    reportingType := draft.reportingType, config := draft.config.sorted.render
    active := if draft.active then 1 else 0, updatedAt := Rfc3339.micros now }

/-- Whether the row is that of the feed at this address. -/
def hasKey (sourceType url : String) (row : Row) : Bool :=
  row.sourceType == sourceType && row.url == url

/-- The row after a successful run. The watermark, compared as text, never moves back. -/
def succeed (row : Row) (windowEnd fetchedAt : Instant) : Row :=
  let reached := Rfc3339.micros windowEnd
  { row with
    watermark := match row.watermark with
      | some mark => if mark < reached then some reached else some mark
      | none => some reached
    lastFetchedAt := some (Rfc3339.micros fetchedAt), errorCount := 0, lastError := none
    updatedAt := Rfc3339.micros fetchedAt }

/-- The row after a failed run. -/
def fail (row : Row) (error : String) (now : Instant) : Row :=
  { row with
    errorCount := row.errorCount + 1, lastError := some error, updatedAt := Rfc3339.micros now }

/-- The configuration a text holds. -/
def readConfig (text : String) : Except Store.Error Json :=
  match Json.parse? text.toList with
  | some config => .ok config.sorted
  | none => .error (.conversion 7 "invalid source config: no JSON document")

/-- The source in a row. -/
def read (row : Row) : Except Store.Error Source := do
  let config ← readConfig row.config
  let lastFetchedAt ← Store.Column.optionalInstant 9 row.lastFetchedAt
  let watermark ← Store.Column.optionalInstant 10 row.watermark
  let errorCount ← Store.Column.count 11 "error_count" row.errorCount
  let createdAt ← Store.Column.instant 13 row.createdAt
  let updatedAt ← Store.Column.instant 14 row.updatedAt
  return { id := row.id, sourceType := row.sourceType, name := row.name, url := row.url
           credibility := row.credibility, tier := row.tier, reportingType := row.reportingType
           config, active := row.active != 0, lastFetchedAt, watermark, errorCount
           lastError := row.lastError, createdAt, updatedAt }

/-- Rows are listed by name, and by id within a name. -/
def precedes (a b : Row) : Bool := a.name < b.name || (a.name == b.name && a.id ≤ b.id)

end Row

end Source

end Harvest
