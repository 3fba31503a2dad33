import Harvest.Config.Basic

/-!
Configurations from the values of documents. Members that a record does not have are overlooked,
except that a feed keeps them.
-/

namespace Harvest.Config

/-- The last member of a name. -/
private def member (members : List (String × Json)) (name : String) : Option Json :=
  (members.reverse.find? fun m => m.1 == name).map Prod.snd

private def field (read : Json → Option α) (standard : α) (members : List (String × Json))
    (name : String) : Option α :=
  match member members name with
  | some value => read value
  | none => some standard

private def optional (read : Json → Option α) (members : List (String × Json)) (name : String) :
    Option (Option α) :=
  match member members name with
  | some .null | none => some none
  | some value => (read value).map some

private def text? : Json → Option String
  | .string text => some text
  | _ => none

private def flag? : Json → Option Bool
  | .bool b => some b
  | _ => none

/-- A whole number from `low` up to but without `high`. -/
private def int? (low high : Int) : Json → Option Int
  | .int n => if low ≤ n && n < high then some n else none
  | _ => none

private def nat? (bits : Nat) (json : Json) : Option Nat :=
  (int? 0 (Nat.pow 2 bits : Nat) json).map Int.toNat

private def signed? (json : Json) : Option Int :=
  int? (-(Nat.pow 2 63 : Nat)) (Nat.pow 2 63 : Nat) json

/-- A number; whole numbers will do. -/
private def real? : Json → Option Float
  | .real x => some x
  | .int n => some (Float.ofInt n)
  | _ => none

private def texts? : Json → Option (List String)
  | .array items => items.mapM text?
  | _ => none

/-- The members of a record, which may also be given as a list in order. -/
private def membersOf (names : List String) : Json → Option (List (String × Json))
  | .object members => some members
  | .array items => some (names.zip items)
  | _ => none

def Settings.ofJson (json : Json) : Option Settings := do
  let d := Settings.standard
  let m ← membersOf ["request-timeout-seconds", "user-agent", "default-lookback-hours",
    "default-interval-minutes", "default-max-items"] json
  return {
    requestTimeoutSeconds := ← field (nat? 64) d.requestTimeoutSeconds m "request-timeout-seconds"
    userAgent := ← field text? d.userAgent m "user-agent"
    lookbackHours := ← field signed? d.lookbackHours m "default-lookback-hours"
    intervalMinutes := ← field (nat? 64) d.intervalMinutes m "default-interval-minutes"
    maxItems := ← field (nat? 64) d.maxItems m "default-max-items" }

def Collection.ofJson (json : Json) : Option Collection := do
  let d := Collection.standard
  let m ← membersOf ["database-path", "requests-per-second", "max-retries",
    "feed-timeout-seconds", "overlap-seconds", "dedup-window-days", "max-concurrent-feeds"] json
  return {
    databasePath := ← field text? d.databasePath m "database-path"
    requestsPerSecond := ← field real? d.requestsPerSecond m "requests-per-second"
    maxRetries := ← field (nat? 32) d.maxRetries m "max-retries"
    feedTimeoutSeconds := ← field (nat? 64) d.feedTimeoutSeconds m "feed-timeout-seconds"
    overlapSeconds := ← field signed? d.overlapSeconds m "overlap-seconds"
    dedupWindowDays := ← field (nat? 32) d.dedupWindowDays m "dedup-window-days"
    maxConcurrentFeeds := ← field (nat? 64) d.maxConcurrentFeeds m "max-concurrent-feeds" }

def FeedConfig.keys : List String :=
  ["name", "url", "credibility", "categories", "interval-minutes", "max-items", "language", "tier",
    "reporting-type", "enabled"]

mutual

/-- A value as it can be written: a double that is no number becomes null. -/
private def passed : Json → Json
  | .real x => if x - x == 0 then .real x else .null
  | .array items => .array (passedItems items)
  | .object members => .object (passedMembers members)
  | other => other

private def passedItems : List Json → List Json
  | [] => []
  | item :: rest => passed item :: passedItems rest

private def passedMembers : List (String × Json) → List (String × Json)
  | [] => []
  | (name, value) :: rest => (name, passed value) :: passedMembers rest

end

def FeedConfig.ofJson (json : Json) : Option FeedConfig := do
  let m ← match json with
    | .object members => some members
    | _ => none
  return {
    name := ← (member m "name").bind text?
    url := ← (member m "url").bind text?
    credibility := ← field real? 0.5 m "credibility"
    categories := ← field texts? [] m "categories"
    intervalMinutes := ← optional (nat? 64) m "interval-minutes"
    maxItems := ← optional (nat? 64) m "max-items"
    language := ← optional text? m "language"
    tier := ← optional text? m "tier"
    reportingType := ← optional text? m "reporting-type"
    enabled := ← field flag? true m "enabled"
    extra := (m.filter fun x => !keys.contains x.1).foldl
      (fun done x => Json.insertMember x.1 (passed x.2).sorted done) [] }

private def feeds? : Json → Option (List FeedConfig)
  | .array items => items.mapM FeedConfig.ofJson
  | _ => none

/-- The version of the documents that are understood. -/
def currentVersion : Nat := 1

def ofJson (json : Json) : Option Config := do
  let m ← match json with
    | .object members => some members
    | _ => none
  return {
    version := ← field (nat? 32) currentVersion m "version"
    settings := ← field Settings.ofJson .standard m "settings"
    collection := ← field Collection.ofJson .standard m "collector"
    feeds := ← field feeds? [] m "feeds" }

end Harvest.Config
