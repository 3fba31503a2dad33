import Harvest.Collect.Collector
import Harvest.CommandLine.Disk
import Harvest.CommandLine.Options
import Harvest.Report.DryRun
import Harvest.Report.Statistics

/-!
What the program does for its arguments: what it prints, how it exits, and what is on the disk
afterwards.
-/

namespace Harvest.CommandLine

open Collect (Collector Fault)
open Web (Session)

/-- An error and the errors behind it, the nearest first. -/
structure Failure where
  text : String
  causes : List String
  deriving DecidableEq

namespace Failure

/-- The causes as a list, with numbers if there are several. -/
private def causeLines (causes : List String) : List String :=
  match causes with
  | [cause] => ["    " ++ cause]
  | causes => causes.zipIdx.map fun c => "    " ++ toString c.2 ++ ": " ++ c.1

/-- What is printed about a failure. -/
def report (f : Failure) : String :=
  Report.linesText (("Error: " ++ f.text) ::
    (if f.causes.isEmpty then [] else ["", "Caused by:"] ++ causeLines f.causes))

def ofConfig (e : Config.Error) : Failure :=
  ⟨e.message, match e with
    | .unreadable reason => [reason]
    | _ => []⟩

def ofDatabase (path : String) (fault : DatabaseFault) : Failure :=
  ⟨"opening " ++ path, ["Database error: " ++ fault.message, fault.message, fault.code]⟩

def ofStore (e : Store.Error) : Failure := ⟨(Fault.store e).message, e.message :: e.causes⟩

def ofFault (fault : Fault) : Failure :=
  match fault with
  | .store e => ofStore e
  | fault => ⟨fault.message, []⟩

/-- The failure of a dry run for a feed that is not there. -/
def unknownFeed (name : String) : Failure :=
  ⟨"no feed named '" ++ name ++ "' in configuration", []⟩

end Failure

/-- What a program printed, and its exit code. -/
structure Outcome where
  exit : Nat
  output : String
  errors : String
  deriving DecidableEq

namespace Outcome

def success (output : String) : Outcome := ⟨0, output, ""⟩

def failure (output : String) (f : Failure) : Outcome := ⟨1, output, f.report⟩

def usage (e : UsageError) : Outcome :=
  ⟨2, "", "error: " ++ e.message ++ "\n\n" ++ CommandLine.usage ++
    "\n\nFor more information, try '--help'.\n"⟩

end Outcome

/-- Tells what would be collected. -/
def dryRun (config : Config) (only : Option String) : Outcome :=
  match only with
  | some name =>
    if (config.findFeed name).isNone then
      .failure (Report.settingsText config) (.unknownFeed name)
    else .success (Report.settingsText config ++ Report.feedsText config only)
  | none => .success (Report.settingsText config ++ Report.feedsText config only)

/-- Reports on a database. -/
def stats (path : String) (opened : Except DatabaseFault Store) : Outcome :=
  let head := "Database: " ++ path ++ "\n\n"
  match opened with
  | .error fault => .failure head (.ofDatabase path fault)
  | .ok store =>
    match Report.Statistics.ofStore store with
    | .error e => .failure head (.ofStore e)
    | .ok s => .success (head ++ Report.statisticsText s)

/-- Runs a batch: every enabled feed, or only the one of a name. A configuration that cannot be
reloaded stays in use. The result is the report, or nothing if a run crashes. -/
def runBatch (c : Collector) (place : Config.Place) (only : Option String) :
    Collector × Option (Except Fault String) :=
  let (c, _) := c.reload place
  match only with
  | some name =>
    let (c, result) := c.collectByName name
    (c, result.map fun r => r.map fun result => Report.batchText [result])
  | none =>
    let (c, results) := c.collectEnabled
    (c, results.map fun results => .ok (Report.batchText results))

/-- Runs so many batches, whatever becomes of each. The result is what they print. -/
def watch (c : Collector) (place : Config.Place) (only : Option String) (printed : String) :
    (batches : Nat) → Collector × Option String
  | 0 => (c, some printed)
  | batches + 1 =>
    match runBatch c place only with
    | (c, none) => (c, none)
    | (c, some report) => watch c place only (printed ++ (report.toOption.getD "")) batches

/-- What the program runs on. -/
structure Host where
  disk : Disk
  session : Session

namespace Host

/-- Builds the collector of a configuration on the database it names. -/
def collector (host : Host) (live : Config.Live) : Except Failure Collector :=
  let path := live.current.collection.databasePath
  match host.disk.openStore path with
  | .error fault => .error (.ofDatabase path fault)
  | .ok store => (Collector.new live host.session store).mapError .ofFault

/-- The host after a collector has done its work. -/
def after (host : Host) (path : String) (c : Collector) : Host :=
  ⟨host.disk.keepStore path c.site.store, c.site.session⟩

/-- Collects, in one batch or in so many until the interrupt. There is no outcome if a run crashes. -/
def collect (host : Host) (live : Config.Live) (invocation : Invocation) (batches : Nat) :
    Host × Option Outcome :=
  let path := live.current.collection.databasePath
  let place := (host.disk.configFile invocation.configPath).toOption
  match host.collector live with
  | .error failure => (host, some (.failure "" failure))
  | .ok c =>
    if invocation.mode = .watch then
      let (c, printed) := watch c place invocation.feed "" batches
      (host.after path c, printed.map .success)
    else
      let (c, report) := runBatch c place invocation.feed
      (host.after path c, report.map fun
        | .ok text => .success text
        | .error fault => .failure "" (.ofFault fault))

/-- Reports on the database of a configuration, which is made if it is not there. -/
def stats (host : Host) (path : String) : Host × Outcome :=
  let opened := host.disk.openStore path
  (match opened with
    | .ok store => { host with disk := host.disk.keepStore path store }
    | .error _ => host, CommandLine.stats path opened)

/-- Carries out an invocation. -/
def invoke (host : Host) (invocation : Invocation) (batches : Nat) : Host × Option Outcome :=
  match host.disk.configFile invocation.configPath >>= fun file => Config.Live.load (some file) with
  | .error e => (host, some (.failure "" (.ofConfig e)))
  | .ok live =>
    match invocation.mode with
    | .dryRun => (host, some (dryRun live.current invocation.feed))
    | .stats =>
      let (host, outcome) := host.stats live.current.collection.databasePath
      (host, some outcome)
    | .collect | .watch => host.collect live invocation batches

/-- Runs the program. A program that watches is interrupted after so many batches. There is no outcome
if it crashes. -/
def run (host : Host) (arguments : List String) (batches : Nat) : Host × Option Outcome :=
  match parse arguments with
  | .error e => (host, some (.usage e))
  | .ok .help => (host, some (.success helpText))
  | .ok .version => (host, some (.success versionText))
  | .ok (.invoke invocation) => host.invoke invocation batches

end Host

end Harvest.CommandLine
