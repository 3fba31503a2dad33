import Harvest.Collect.Run
import Harvest.Web.Session

/-!
Batches: many feeds collected side by side. Runs start in the order of the configuration, at most so
many beyond those already handed out, and reports are handed out in that same order. Which of the
waiting runs goes on next is up to the outside; the machine below follows any such course of events,
and a session performs one of them.
-/

namespace Harvest.Collect

open Web (Activity Session Wait)

/-- Runs in progress and what is left to do. -/
structure Batch where
  store : Store
  /-- The runs that were started, in order, each at its present wait or at its end. -/
  started : List (Activity Store Report)
  waiting : List Job
  /-- How many started runs may be without a report that was handed out. -/
  width : Nat

namespace Batch

def isDone : Activity Store Report → Bool
  | .done _ => true
  | _ => false

/-- How many reports were handed out: those of the leading finished runs. -/
def handedOut (b : Batch) : Nat := (b.started.takeWhile isDone).length

/-- Whether another run may start. -/
def mayStart (b : Batch) : Bool := b.started.length < b.handedOut + max b.width 1

/-- A batch before its first run. -/
def new (store : Store) (width : Nat) (jobs : List Job) : Batch := ⟨store, [], jobs, width⟩

/-- What can happen to a batch. -/
inductive Event where
  /-- The next run starts. -/
  | start
  /-- The wait of a run ends. -/
  | resume (index : Nat) (answer : (wait : Wait) → Option wait.Answer)

/-- The batch after an event; an event that cannot happen changes nothing. -/
def after (b : Batch) (clocks : Clocks) : Event → Batch
  | .start =>
    match b.waiting with
    | [] => b
    | job :: rest =>
      if b.mayStart then
        let (store, run) := job.run.settle clocks b.store
        { b with store, started := b.started ++ [run], waiting := rest }
      else b
  | .resume index answer =>
    match b.started[index]? with
    | none => b
    | some run =>
      let (store, run) := run.resume clocks b.store answer
      { b with store, started := b.started.set index run }

/-- The batch after a course of events. -/
def afterAll (b : Batch) (events : List (Clocks × Event)) : Batch :=
  events.foldl (fun b e => b.after e.1 e.2) b

/-- The reports that were handed out. -/
def reports (b : Batch) : List Report :=
  (b.started.takeWhile isDone).filterMap fun
    | .done report => some report
    | _ => none

/-- Whether every run has ended. -/
def isOver (b : Batch) : Bool := b.waiting.isEmpty && b.started.all isDone

/-- Whether a run crashed. -/
def isCrashed (b : Batch) : Bool :=
  b.started.any fun
    | .crash => true
    | _ => false

end Batch

/-- A session with the store it works on. -/
structure Site where
  session : Session
  store : Store

namespace Site

/-- Starts a run. -/
def start (site : Site) (job : Job) : Site × Activity Store Report :=
  let (store, run) := job.run.settle site.session.clocks site.store
  ({ site with store }, run)

/-- Starts runs in order. -/
def startAll (site : Site) : List Job → Site × List (Activity Store Report)
  | [] => (site, [])
  | job :: rest =>
    let (site, run) := site.start job
    let (site, runs) := site.startAll rest
    (site, run :: runs)

/-- Performs an activity. There is no result if it crashes. -/
def perform {α : Type} (site : Site) (activity : Activity Store α) : Site × Option α :=
  let (session, store, result) := site.session.perform site.store activity
  (⟨session, store⟩, result)

/-- Performs started runs to their end, the first one first, and starts another after each. -/
def finish (site : Site) (done : List Report) :
    (started : List (Activity Store Report)) → (waiting : List Job) → Site × Option (List Report)
  | [], _ => (site, some done.reverse)
  | run :: rest, waiting =>
    match site.perform run with
    | (site, none) => (site, none)
    | (site, some report) =>
      match waiting with
      | [] => finish site (report :: done) rest []
      | job :: waiting =>
        let (site, next) := site.start job
        finish site (report :: done) (rest ++ [next]) waiting
  termination_by started waiting => started.length + waiting.length

/-- Collects feeds, at most so many side by side. There are no reports if a run crashes. -/
def collect (site : Site) (width : Nat) (jobs : List Job) : Site × Option (List Report) :=
  let width := max width 1
  let (site, started) := site.startAll (jobs.take width)
  site.finish [] started (jobs.drop width)

end Site

end Harvest.Collect
