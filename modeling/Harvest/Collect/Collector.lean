import Harvest.Collect.Batch
import Harvest.Config.Live

/-!
A collector: a configuration in use, and a site where its feeds are collected. How requests are paced
and how often they are repeated is settled when the collector is built; all else follows the
configuration.
-/

namespace Harvest.Collect

open Web (Pacer Session)

structure Collector where
  live : Config.Live
  site : Site
  maxRetries : Nat

namespace Collector

/-- Builds a collector. The session's pace is set by the configuration. -/
def new (live : Config.Live) (session : Session) (store : Store) : Except Fault Collector :=
  match Web.intervalOfRate live.current.collection.requestsPerSecond with
  | .error e => .error (.invalidArgument e.message)
  | .ok interval =>
    .ok ⟨live, ⟨{ session with pacer := .new interval }, store⟩,
      live.current.collection.maxRetries⟩

/-- Takes over what the configuration file now holds. -/
def reload (c : Collector) (place : Config.Place) : Collector × Except Fault Bool :=
  let (live, outcome) := c.live.reload place
  ({ c with live }, outcome.mapError .config)

/-- What is to be done for a feed. -/
def job (c : Collector) (feed : Config.FeedConfig) : Job := ⟨c.live.current, feed, c.maxRetries⟩

/-- What is to be done in a batch: every enabled feed, in the order of the configuration. -/
def enabledJobs (c : Collector) : List Job := c.live.current.enabledFeeds.map c.job

/-- Collects every enabled feed. There are no results if a run crashes. -/
def collectEnabled (c : Collector) : Collector × Option (List RunResult) :=
  let (site, reports) := c.site.collect c.live.current.collection.maxConcurrentFeeds c.enabledJobs
  ({ c with site }, reports.map fun reports => reports.map (·.result))

/-- Collects one feed, whether the configuration has it or not. -/
def collectFeed (c : Collector) (feed : Config.FeedConfig) : Collector × Option RunResult :=
  let (site, report) := c.site.perform (c.job feed).run
  ({ c with site }, report.map (·.result))

/-- The fault of asking for a feed that is not there. -/
def unknownFeed (name : String) : Fault :=
  .invalidArgument ("no feed named '" ++ name ++ "'")

/-- Collects the feed of a name, enabled or not. -/
def collectByName (c : Collector) (name : String) : Collector × Option (Except Fault RunResult) :=
  match c.live.current.findFeed name with
  | none => (c, some (.error (unknownFeed name)))
  | some feed =>
    let (c, result) := c.collectFeed feed
    (c, result.map .ok)

/-- Reloads the configuration, and collects every enabled feed if that went well. -/
def collectAll (c : Collector) (place : Config.Place) :
    Collector × Option (Except Fault (List RunResult)) :=
  match c.reload place with
  | (c, .error e) => (c, some (.error e))
  | (c, .ok _) =>
    let (c, results) := c.collectEnabled
    (c, results.map .ok)

/-- Reloads the configuration, and collects the feed of a name if that went well. -/
def collectNamed (c : Collector) (place : Config.Place) (name : String) :
    Collector × Option (Except Fault RunResult) :=
  match c.reload place with
  | (c, .error e) => (c, some (.error e))
  | (c, .ok _) => c.collectByName name

/-- Processes one entry of a feed, with no limit of time. -/
def processEntry (c : Collector) (feed : Config.FeedConfig) (sourceId : Int) (entry : Feed.Entry) :
    Collector × Option (Except Store.Error EntryOutcome) :=
  let (site, outcome) := c.site.perform ((c.job feed).processEntry none sourceId entry)
  ({ c with site }, outcome.join)

end Collector

end Harvest.Collect
