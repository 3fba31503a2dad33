import Harvest.Config.Basic
import Harvest.Report.Batch

/-!
The report on what a batch would do under a configuration.
-/

namespace Harvest.Report

/-- The settings in use. -/
def settingsText (config : Config) : String :=
  let s := config.settings
  let c := config.collection
  linesText ["=== Feedline Dry Run ===", "", "Settings:",
    "  Request timeout: " ++ toString s.requestTimeoutSeconds ++ "s",
    "  User agent: " ++ s.userAgent,
    "  Default lookback: " ++ toString s.lookbackHours ++ "h",
    "  Batch interval: " ++ toString s.intervalMinutes ++ "min",
    "  Default max items: " ++ toString s.maxItems, "", "Collector:",
    "  Database: " ++ c.databasePath,
    "  Requests per second (per domain): " ++ Decimal.plain c.requestsPerSecond,
    "  Max retries: " ++ toString c.maxRetries,
    "  Feed timeout: " ++ toString c.feedTimeoutSeconds ++ "s",
    "  Overlap: " ++ toString c.overlapSeconds ++ "s",
    "  Dedup window: " ++ toString c.dedupWindowDays ++ " days",
    "  Max concurrent feeds: " ++ toString c.maxConcurrentFeeds]

/-- The feeds a dry run promises to collect: the enabled ones, or the enabled one of a name. -/
def selectedFeeds (config : Config) (only : Option String) : List Config.FeedConfig :=
  config.enabledFeeds.filter fun feed =>
    match only with
    | some name => feed.name == name
    | none => true

private def feedLine (config : Config) (feed : Config.FeedConfig) : String :=
  "  - " ++ feed.name ++ " <" ++ feed.url ++ "> credibility " ++ Decimal.fixed 2 feed.credibility ++
    ", max " ++ toString (feed.itemLimit config.settings) ++ " items" ++
    (if feed.enabled then "" else " (disabled)")

/-- The configured feeds, and how many of them would be collected. -/
def feedsText (config : Config) (only : Option String) : String :=
  linesText (["", "Feeds (" ++ toString config.feeds.length ++ " configured):"] ++
    config.feeds.map (feedLine config) ++
    ["", "✓ Configuration is valid",
      "✓ Would collect " ++ toString (selectedFeeds config only).length ++ " feeds"])

end Harvest.Report
