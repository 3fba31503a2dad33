import Harvest.Web.Pacing

/-!
Callers in line. A call for a turn is let through at once, or waits behind those that came before it for the
same domain. At each tick of the clock all calls that wait are tried again, in the order in which they came.
-/

namespace Harvest.Web

/-- A call for a turn to request a URL. -/
structure Call where
  url : String
  arrival : Nat
  deriving DecidableEq

namespace Call

/-- The key under which a call is paced. -/
def key (call : Call) : String := Url.domainKey call.url

/-- The calls for one domain. -/
def of (key : String) (calls : List Call) : List Call := calls.filter fun call => call.key == key

end Call

/-- A call that was let through. -/
structure Release where
  call : Call
  time : Nat
  deriving DecidableEq

/-- The releases of one domain. -/
def Release.of (key : String) (releases : List Release) : List Release :=
  releases.filter fun release => release.call.key == key

structure Line where
  pacer : Pacer
  /-- The calls that wait, in the order in which they came. -/
  waiting : List Call
  released : List Release
  deriving DecidableEq

namespace Line

def new (interval : Nat) : Line := ⟨.new interval, [], []⟩

/-- Lets a call through, unless another one waits for the same domain or the domain is not ready. -/
def attend (time : Nat) (line : Line) (call : Call) : Line :=
  if (Call.of call.key line.waiting).isEmpty && line.pacer.releaseTime 1 call.key time == time then
    { line with
      pacer := (line.pacer.wait 1 call.key time).2
      released := line.released ++ [⟨call, time⟩] }
  else { line with waiting := line.waiting ++ [call] }

/-- The line when the clock stops at some time, and these URLs are called for. -/
def stop (line : Line) (time : Nat) (urls : List String) : Line :=
  (line.waiting ++ urls.map (Call.mk · time)).foldl (attend time) { line with waiting := [] }

/-- The line after so many ticks, given the URLs that are called for at each. -/
def after (interval tick : Nat) (urls : Nat → List String) : Nat → Line
  | 0 => (new interval).stop 0 (urls 0)
  | n + 1 => (after interval tick urls n).stop ((n + 1) * tick) (urls (n + 1))

/-- All calls up to a tick, in the order in which they came. -/
def calls (tick : Nat) (urls : Nat → List String) : Nat → List Call
  | 0 => (urls 0).map (Call.mk · 0)
  | n + 1 => calls tick urls n ++ (urls (n + 1)).map (Call.mk · ((n + 1) * tick))

end Line

end Harvest.Web
