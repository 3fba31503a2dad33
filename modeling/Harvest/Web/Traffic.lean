import Harvest.Web.Activity
import Harvest.Web.Pacing
import Harvest.Web.Script

/-!
Traffic: activities side by side that share a pacer and a web. Which of them goes on next, at which time
and with which answer is up to the outside, but turns are given out by the pacer alone. An activity that
comes to wait for a reply sends its request at that moment.
-/

namespace Harvest.Web

/-- A request that an activity made, and every request that was sent for it, redirects included. -/
structure Attempt where
  uptime : Nat
  request : Request
  sent : List Arrival
  deriving DecidableEq

structure Traffic (σ α : Type) where
  state : σ
  /-- The activities, each before its first step, at its present wait or at its end. -/
  runs : List (Activity σ α)
  pacer : Pacer
  web : Script
  /-- All requests that were made, in order. -/
  attempts : List Attempt

namespace Traffic

variable {σ α : Type}

def new (state : σ) (runs : List (Activity σ α)) (pacer : Pacer) (web : Script) : Traffic σ α :=
  ⟨state, runs, pacer, web, []⟩

/-- The pacer after a wait that ends so. A turn cannot be had before the pacer lets the caller through. -/
def paced? (pacer : Pacer) (uptime : Nat) : (wait : Wait) → Option wait.Answer → Option Pacer
  | .turn key, some _ =>
    if pacer.releaseTime 1 key uptime = uptime then some (pacer.wait 1 key uptime).2 else none
  | _, _ => some pacer

/-- Sends a request, unless it may take no time. -/
def send (t : Traffic σ α) (uptime : Nat) (request : Request) : Traffic σ α :=
  if request.timeout = 0 then t
  else
    let web := (t.web.send uptime request).web
    { t with web, attempts := t.attempts ++ [⟨uptime, request, web.arrivals.drop t.web.arrivals.length⟩] }

/-- Lets the activity of an index go on up to its next wait, and sends its request there. -/
def goOn (t : Traffic σ α) (clocks : Clocks) (index : Nat) (run : Activity σ α) : Traffic σ α :=
  let (state, run) := run.settle clocks t.state
  let t := { t with state, runs := t.runs.set index run }
  match run with
  | .await _ (.reply request) _ => t.send clocks.uptime request
  | _ => t

/-- What can happen: at some time, an activity begins or its wait ends. -/
structure Event where
  clocks : Clocks
  index : Nat
  answer : (wait : Wait) → Option wait.Answer

/-- The traffic after an event; an event that cannot happen changes nothing. -/
def after (t : Traffic σ α) (event : Event) : Traffic σ α :=
  match t.runs[event.index]? with
  | some (.await _ wait next) =>
    match paced? t.pacer event.clocks.uptime wait (event.answer wait) with
    | some pacer => { t with pacer }.goOn event.clocks event.index (next (event.answer wait))
    | none => t
  | some run => t.goOn event.clocks event.index run
  | none => t

def afterAll (t : Traffic σ α) (events : List Event) : Traffic σ α := events.foldl after t

end Traffic

end Harvest.Web
