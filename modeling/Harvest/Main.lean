import Std.Time.DateTime.Timestamp
import Harvest.CommandLine.Run
import Harvest.Store.Archive

/-!
The program. It brings the files it needs from the disk, runs, prints, and keeps the database.
-/

namespace Harvest.Program

open CommandLine

/-- The time of the calendar, in whole seconds. -/
def now : IO Instant := do
  let stamp ← Std.Time.Timestamp.now
  return (Instant.of? stamp.toSecondsSinceUnixEpoch.val 0).getD .epoch

/-- The content of a file, if there is one. -/
def contents? (path : String) : IO (Option ByteArray) := do
  try return some (← IO.FS.readBinFile path)
  catch _ => return none

/-- A web of which nothing can be reached. -/
def session : IO Web.Session := do
  return { clocks := ⟨← now, 0⟩, pacer := .new 0, tick := 1, web := .new false []
           pausesTake := true, pauses := [] }

/-- Whether a file can be made at a path. -/
def isWritable (path : String) : IO Bool := do
  try
    let _ ← IO.FS.Handle.mk path .append
    return true
  catch _ => return false

/-- Puts the file of a database on the disk of the program. -/
def bringDatabase (disk : Disk) (path : String) : IO Disk := do
  if path == Disk.inMemory then return disk
  if !(← isWritable path) then return disk
  let name := Path.ofText path
  let disk := { disk with folders := name.dropLast :: disk.folders }
  match ← contents? path with
  | none => return disk
  | some bytes =>
    match (String.fromUTF8? bytes).bind Store.ofText? with
    | some store => return disk.put name (.database store)
    | none => return disk.put name (.text ⟨bytes.toList, 0⟩)

/-- The configuration file at a path, as if it had just been changed for the `turn`-th time. -/
def configFile? (path : String) (turn : Nat) : IO Config.Place := do
  return (← contents? path).map fun bytes => ⟨bytes.toList, turn⟩

/-- The disk as far as an invocation needs it. -/
def bringDisk (invocation : Invocation) : IO Disk := do
  let some file ← configFile? invocation.configPath 0 | return .empty
  let disk := Disk.empty.put (Path.ofText invocation.configPath) (.text file)
  match Config.Live.load (some file) with
  | .error _ => return disk
  | .ok live =>
    if invocation.mode == .dryRun then return disk
    else bringDatabase disk live.current.collection.databasePath

/-- Writes a database to its file. -/
def keepStore (path : String) (store : Store) : IO Unit := do
  if path != Disk.inMemory then IO.FS.writeFile path store.toJson.render

/-- Writes the databases of a disk. -/
def keepDisk (disk : Disk) : IO Unit := do
  for (path, entry) in disk.entries do
    match entry with
    | .database store =>
      let names := if path.head? == some "/" then "" :: path.tail else path
      keepStore ("/".intercalate names) store
    | .text _ => pure ()

def crashed : IO UInt32 := do
  IO.eprintln "the window of days reaches back beyond the calendar"
  return 101

def printOutcome (outcome : Outcome) : IO UInt32 := do
  IO.print outcome.output
  IO.eprint outcome.errors
  return outcome.exit.toUInt32

/-- Runs batch after batch until the process is stopped. -/
partial def watch (c : Collect.Collector) (path : String) (invocation : Invocation) (turn : Nat) :
    IO UInt32 := do
  let clocks := { c.site.session.clocks with now := ← now }
  let c := { c with site := { c.site with session := { c.site.session with clocks } } }
  let (c, report) := runBatch c (← configFile? invocation.configPath turn) invocation.feed
  match report with
  | none => crashed
  | some report =>
    IO.print (report.toOption.getD "")
    keepStore path c.site.store
    IO.sleep (c.live.current.settings.intervalSeconds * 1000).toUInt32
    watch c path invocation (turn + 1)

/-- Starts to watch. -/
def startWatch (host : Host) (invocation : Invocation) : IO UInt32 := do
  let started : Except Failure Collect.Collector := do
    let file ← (host.disk.configFile invocation.configPath).mapError Failure.ofConfig
    let live ← (Config.Live.load (some file)).mapError Failure.ofConfig
    host.collector live
  match started with
  | .error failure => printOutcome (.failure "" failure)
  | .ok c => watch c c.live.current.collection.databasePath invocation 1

/-- Runs the program once. -/
def once (host : Host) (arguments : List String) : IO UInt32 := do
  let (host, outcome) := host.run arguments 1
  keepDisk host.disk
  match outcome with
  | none => crashed
  | some outcome => printOutcome outcome

def run (arguments : List String) : IO UInt32 := do
  match parse arguments with
  | .ok (.invoke invocation) =>
    let host : Host := ⟨← bringDisk invocation, ← session⟩
    if invocation.mode == .watch then startWatch host invocation else once host arguments
  | _ => once ⟨.empty, ← session⟩ arguments

end Harvest.Program

def main (arguments : List String) : IO UInt32 := Harvest.Program.run arguments
