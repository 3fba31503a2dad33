import Harvest.Json.Basic

/-!
Configurations: settings shared by all feeds, the way feeds are collected, and the feeds themselves.
-/

namespace Harvest

namespace Config

structure Settings where
  /-- How long one request may take. -/
  requestTimeoutSeconds : Nat
  userAgent : String
  /-- How far back the first run of a source reaches. -/
  lookbackHours : Int
  /-- The time between two batches. -/
  intervalMinutes : Nat
  /-- How many entries of a feed are processed if the feed does not say. -/
  maxItems : Nat

def Settings.standard : Settings :=
  { requestTimeoutSeconds := 30, userAgent := "feedline/0.1.0", lookbackHours := 24,
    intervalMinutes := 60, maxItems := 50 }

/-- The largest whole number of 64 bits. -/
def maxWord : Nat := Nat.pow 2 64 - 1

/-- The time between two batches, as far as it can be counted. -/
def Settings.intervalSeconds (settings : Settings) : Nat :=
  min (settings.intervalMinutes * 60) maxWord

/-- How feeds are fetched, how much time they get, and where their items are stored. -/
structure Collection where
  databasePath : String
  /-- For each domain. -/
  requestsPerSecond : Float
  /-- Attempts after the first. -/
  maxRetries : Nat
  /-- The budget of one feed with all its entries. -/
  feedTimeoutSeconds : Nat
  /-- How far before the watermark a run starts. -/
  overlapSeconds : Int
  /-- How far back duplicates are looked for. -/
  dedupWindowDays : Nat
  maxConcurrentFeeds : Nat

def Collection.standard : Collection :=
  { databasePath := "feedline.db", requestsPerSecond := 1, maxRetries := 2,
    feedTimeoutSeconds := 300, overlapSeconds := 300, dedupWindowDays := 7,
    maxConcurrentFeeds := 4 }

structure FeedConfig where
  name : String
  url : String
  credibility : Float
  categories : List String
  intervalMinutes : Option Nat
  maxItems : Option Nat
  language : Option String
  tier : Option String
  reportingType : Option String
  enabled : Bool
  /-- All other keys, in byte order and without repetition. -/
  extra : List (String × Json)

namespace FeedConfig

/-- How many entries are processed. -/
def itemLimit (feed : FeedConfig) (settings : Settings) : Nat :=
  feed.maxItems.getD settings.maxItems

/-- The members that a source's configuration has besides the passed-through ones. -/
def ownMembers (feed : FeedConfig) (settings : Settings) : List (String × Json) :=
  [("categories", .array (feed.categories.map .string)),
    ("max_items", .int (feed.itemLimit settings)),
    ("interval_minutes", .int (feed.intervalMinutes.getD settings.intervalMinutes))] ++
  (feed.language.map fun language => ("language", Json.string language)).toList

/-- The members of a source's configuration: the passed-through ones under those of its own. -/
def sourceMembers (feed : FeedConfig) (settings : Settings) : List (String × Json) :=
  (feed.ownMembers settings).foldl (fun done m => Json.insertMember m.1 m.2 done)
    (feed.extra.foldl (fun done m => Json.insertMember m.1 m.2 done) [])

/-- The configuration that is stored with a source. -/
def sourceConfig (feed : FeedConfig) (settings : Settings) : Json :=
  .object (feed.sourceMembers settings)

end FeedConfig

end Config

structure Config where
  version : Nat
  settings : Config.Settings
  collection : Config.Collection
  feeds : List Config.FeedConfig

namespace Config

/-- The feeds to be collected, in order. -/
def enabledFeeds (config : Config) : List FeedConfig := config.feeds.filter (·.enabled)

/-- The first feed of a name. -/
def findFeed (config : Config) (name : String) : Option FeedConfig :=
  config.feeds.find? fun feed => feed.name == name

end Config

end Harvest
