import Harvest.Config.Basic
import Harvest.Config.Decode
import Harvest.Config.Error
import Harvest.Decimal.Shortest
import Harvest.Text.Blank
import Harvest.Url.Parser

/-!
The conditions on a configuration, in the order in which the first that fails is reported.
-/

namespace Harvest.Config

/-- A condition, and the report when it does not hold. -/
structure Condition where
  holds : Bool
  error : Error

/-- Checks conditions in order. -/
def check : List Condition → Except Error Unit
  | [] => .ok ()
  | c :: rest => if c.holds then check rest else .error c.error

def maxLookbackHours : Int := 87600

def maxOverlapSeconds : Int := 604800

def maxFeedsAtOnce : Nat := 64

private def isWithin (low high n : Int) : Bool := low ≤ n && n ≤ high

@[simp] theorem isWithin_eq_true {low high n : Int} : isWithin low high n = true ↔ low ≤ n ∧ n ≤ high := by
  simp [isWithin]

def Settings.conditions (s : Settings) : List Condition :=
  [⟨1 ≤ s.requestTimeoutSeconds, .invalid "request_timeout_seconds must be >= 1"⟩,
    ⟨!Text.isBlankText s.userAgent, .invalid "user_agent cannot be empty"⟩,
    ⟨isWithin 1 maxLookbackHours s.lookbackHours,
      .invalid ("default_lookback_hours must be between 1 and 87600, got " ++
        toString s.lookbackHours)⟩,
    ⟨1 ≤ s.intervalMinutes, .invalid "default_interval_minutes must be >= 1"⟩,
    ⟨1 ≤ s.maxItems, .invalid "default_max_items must be >= 1"⟩]

def Collection.conditions (c : Collection) : List Condition :=
  [⟨0.001 ≤ c.requestsPerSecond && c.requestsPerSecond ≤ 10000,
      .invalid ("requests_per_second must be between 0.001 and 10000, got " ++
        Decimal.plain c.requestsPerSecond)⟩,
    ⟨isWithin 0 maxOverlapSeconds c.overlapSeconds,
      .invalid ("overlap_seconds must be between 0 and 604800, got " ++
        toString c.overlapSeconds)⟩,
    ⟨1 ≤ c.maxConcurrentFeeds && c.maxConcurrentFeeds ≤ maxFeedsAtOnce,
      .invalid ("max_concurrent_feeds must be between 1 and 64, got " ++
        toString c.maxConcurrentFeeds)⟩,
    ⟨1 ≤ c.feedTimeoutSeconds, .invalid "feed_timeout_seconds must be >= 1"⟩,
    ⟨!c.databasePath.isEmpty, .invalid "database_path cannot be empty"⟩]

/-- What is wrong with a feed's address, if anything is. -/
def addressError? (url : String) : Option Error :=
  match Url.parse url with
  | .error e => some (.invalidUrl ("Invalid feed URL '" ++ url ++ "': " ++ e.message))
  | .ok parsed =>
    if parsed.scheme == "http" || parsed.scheme == "https" then none
    else some (.invalidUrl ("Feed URL '" ++ url ++ "' must use http or https"))

/-- The conditions on a feed behind others. -/
def FeedConfig.conditions (earlier : List FeedConfig) (f : FeedConfig) : List Condition :=
  [⟨!Text.isBlankText f.name, .invalid ("feed with url '" ++ f.url ++ "' has an empty name")⟩,
    ⟨!(earlier.map (·.name)).contains f.name,
      .invalid ("duplicate feed name '" ++ f.name ++ "'")⟩,
    ⟨(addressError? f.url).isNone, (addressError? f.url).getD (.invalidUrl f.url)⟩,
    ⟨!(earlier.map (·.url)).contains f.url,
      .invalid ("feed URL '" ++ f.url ++ "' is configured more than once")⟩,
    ⟨0 ≤ f.credibility && f.credibility ≤ 1,
      .invalid ("credibility of feed '" ++ f.name ++ "' must be within [0, 1], got " ++
        Decimal.plain f.credibility)⟩,
    ⟨f.maxItems != some 0, .invalid ("max_items of feed '" ++ f.name ++ "' must be >= 1")⟩]

def feedConditions (earlier : List FeedConfig) : List FeedConfig → List Condition
  | [] => []
  | feed :: rest => feed.conditions earlier ++ feedConditions (feed :: earlier) rest

def conditions (config : Config) : List Condition :=
  ⟨config.version == currentVersion,
      .invalid ("unsupported config version " ++ toString config.version ++ ", expected 1")⟩ ::
    config.settings.conditions ++ config.collection.conditions ++ feedConditions [] config.feeds

/-- Whether a configuration may be used. -/
def validate (config : Config) : Except Error Unit := check config.conditions

end Harvest.Config
