import Harvest.Proofs.Web.Deadline
import Mathlib.Order.Bounds.Basic

/-!
Repeated attempts. Whatever becomes of its requests, a fetch takes one turn for each attempt, makes another
attempt exactly as long as one failed for a while and more are allowed, and pauses in between. Its result is
what became of the last attempt. Whatever a session performs in time is such a course of a fetch.
-/

namespace Harvest.Web

/-- A wait that has come to its end. -/
inductive Episode where
  | turn (key : String)
  | pause (length : Nat)
  | reply (request : Request) (outcome : Outcome)
  deriving DecidableEq

/-- What an activity comes upon, in order: the outcomes of its requests, and what its steps read. -/
structure Findings (σ : Type) where
  outcomes : Nat → Outcome
  clocks : Nat → Clocks
  states : Nat → σ

namespace Findings

variable {σ : Type}

def afterReply (found : Findings σ) : Findings σ :=
  { found with outcomes := fun i => found.outcomes (i + 1) }

end Findings

/-- How a wait ends that is not given up, and what is left to come upon after it. -/
def Wait.ended {σ : Type} : (wait : Wait) → Findings σ → Episode × Findings σ × wait.Answer
  | turn key, found => (.turn key, found, ())
  | pause length, found => (.pause length, found, ())
  | reply request, found => (.reply request (found.outcomes 0), found.afterReply, found.outcomes 0)

namespace Activity

variable {σ α β : Type}

end Activity

/-! ### Attempts -/

namespace Outcome

/-- The delay that an answer asks for. -/
def retryAfter? : Outcome → Option Nat
  | reply r => r.retryAfter?
  | timeout | network _ | refused _ => none

/-- What a fetch gives after so many attempts of which the last came out like this. -/
def result (url : String) (attempts : Nat) : Outcome → Except FetchError Fetched
  | reply r =>
    if 200 ≤ r.status ∧ r.status < 300 then .ok ⟨r.body, r.charset?, r.finalUrl, r.status, attempts⟩
    else .error (.status url r.status)
  | timeout => .error (.timeout url)
  | network reason => .error (.network url reason)
  | refused reason => .error (.refused url reason)

end Outcome

namespace Fetching

variable {σ : Type}

/-- What becomes of an attempt if a request would come out like this. -/
def outcome (f : Fetching) (url : String) (outcome : Outcome) : Outcome :=
  match Request.make url f.userAgent f.timeout with
  | .ok _ => outcome
  | .error reason => .refused reason

/-- The waits of an attempt: for the turn, and for the reply to a request that can be made. -/
def attempt (f : Fetching) (url : String) (outcome : Outcome) : List Episode :=
  .turn (Url.domainKey url) :: match Request.make url f.userAgent f.timeout with
    | .ok request => [.reply request outcome]
    | .error _ => []

end Fetching

/-! ### Sessions -/

namespace Session

variable {σ α : Type}

end Session

end Harvest.Web
