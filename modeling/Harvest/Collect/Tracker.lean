import Harvest.Collect.Fault

/-!
Trackers follow a run through its stages. They keep every request to go on, granted or not; a request
that is not granted changes nothing else.
-/

namespace Harvest.Collect

/-- A request to enter a stage. -/
structure StageRequest where
  target : Stage
  granted : Bool
  deriving DecidableEq

structure Tracker where
  stage : Stage
  /-- All requests so far, in order. -/
  requests : List StageRequest
  deriving DecidableEq

namespace Tracker

def start : Tracker := ⟨.loadingConfig, []⟩

/-- Enters a stage if that is allowed. -/
def advance (t : Tracker) (target : Stage) : Tracker × Except Fault Unit :=
  match t.stage.advance target with
  | .ok stage => (⟨stage, t.requests ++ [⟨target, true⟩]⟩, .ok ())
  | .error fault => ({ t with requests := t.requests ++ [⟨target, false⟩] }, .error fault)

/-- The stages that were entered, in order. -/
def entered (t : Tracker) : List Stage := (t.requests.filter (·.granted)).map (·.target)

end Tracker

end Harvest.Collect
