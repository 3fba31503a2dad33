import Harvest.Web.Activity
import Harvest.Web.Pacing
import Harvest.Web.Script

/-!
Sessions perform activities: they keep the clocks, give out turns, send requests over a scripted web
and let time pass. Nothing but stalls, turns and pauses takes time.
-/

namespace Harvest.Web

structure Session where
  clocks : Clocks
  pacer : Pacer
  /-- The clock stops at multiples of this only. -/
  tick : Nat
  web : Script
  /-- Whether pauses take their time, or are over at once. -/
  pausesTake : Bool
  /-- The lengths of all pauses so far. -/
  pauses : List Nat

namespace Session

/-- The session at a later uptime. -/
def atUptime (s : Session) (uptime : Nat) : Session := { s with clocks := { s.clocks with uptime } }

/-- Lets time pass up to an uptime, or to a deadline before it. -/
def waitUntil (s : Session) (deadline : Option Nat) (uptime : Nat) : Session × Option Unit :=
  match deadline with
  | some deadline =>
    if deadline < uptime then (s.atUptime deadline, none) else (s.atUptime uptime, some ())
  | none => (s.atUptime uptime, some ())

/-- Sends a request and waits for the outcome. Even an outcome that takes no time is too late at the
deadline, and so is any for a request that may take no time. -/
def ask (s : Session) (deadline : Option Nat) (request : Request) : Session × Option Outcome :=
  if request.timeout = 0 then (s, some .timeout)
  else
    let start := s.clocks.uptime
    let exchange := s.web.send start request
    let later := { s.atUptime (start + exchange.elapsed) with web := exchange.web }
    let stop := start + min exchange.elapsed request.timeout
    (later, if deadline.any (· ≤ stop) then none else some exchange.outcome)

/-- Ends a wait. A wait given up at its deadline uses up no turn. -/
def answer (s : Session) (deadline : Option Nat) :
    (wait : Wait) → Session × Option wait.Answer
  | .turn key =>
    let (time, pacer) := s.pacer.wait s.tick key s.clocks.uptime
    match s.waitUntil deadline time with
    | (later, some _) => ({ later with pacer }, some ())
    | (later, none) => (later, none)
  | .pause length =>
    let s := { s with pauses := s.pauses ++ [length] }
    if s.pausesTake then s.waitUntil deadline (s.clocks.uptime + length) else (s, some ())
  | .reply request => s.ask deadline request

/-- Performs an activity to its end. There is no result if it crashes. -/
def perform {σ α : Type} (s : Session) (state : σ) : Activity σ α → Session × σ × Option α
  | .done a => (s, state, some a)
  | .step write next => s.perform (write s.clocks state) (next s.clocks state)
  | .await deadline wait next =>
    let (later, answer) := s.answer deadline wait
    later.perform state (next answer)
  | .crash => (s, state, none)

end Session

end Harvest.Web
