import Harvest.Web.Activity

/-!
Fetching one document. Before every attempt the fetch waits for its turn at the domain; an attempt
that failed for a while is repeated after a delay, as often as allowed.
-/

namespace Harvest.Web

/-- How documents are fetched. -/
structure Fetching where
  userAgent : String
  /-- The longest time for one attempt, in nanoseconds. -/
  timeout : Nat
  /-- Attempts after the first. -/
  maxRetries : Nat
  /-- The uptime at which all waiting ends. -/
  deadline : Option Nat
  deriving DecidableEq

/-- A failed attempt, and the delay that the server asked for. -/
structure Failure where
  error : FetchError
  retryAfter : Option Nat
  deriving DecidableEq

/-- What an attempt on a URL amounts to. -/
def Outcome.verdict (url : String) (attempt : Nat) : Outcome → Except Failure Fetched
  | reply r =>
    if r.isSuccess then .ok ⟨r.body, r.charset?, r.finalUrl, r.status, attempt + 1⟩
    else .error ⟨.status url r.status, r.retryAfter?⟩
  | timeout => .error ⟨.timeout url, none⟩
  | network reason => .error ⟨.network url reason, none⟩
  | refused reason => .error ⟨.refused url reason, none⟩

/-- Jitter is read off the clock, and stays below a quarter of a second. -/
def jitterOf (uptime : Nat) : Nat := uptime % nanosPerSecond % maxJitter

/-- The delay after a failed attempt. -/
def Failure.delay (failure : Failure) (attempt uptime : Nat) : Nat :=
  failure.retryAfter.getD (backoff attempt (jitterOf uptime))

namespace Fetching

variable {σ : Type}

/-- One attempt. The result is `none` if the deadline passed. -/
def tryOnce (f : Fetching) (url : String) (attempt : Nat) :
    Activity σ (Option (Except Failure Fetched)) :=
  .await f.deadline (.turn (Url.domainKey url)) fun
    | none => .done none
    | some _ =>
      match Request.make url f.userAgent f.timeout with
      | .error reason => .done (some ((Outcome.refused reason).verdict url attempt))
      | .ok request =>
        .await f.deadline (.reply request) fun
          | none => .done none
          | some outcome => .done (some (Outcome.verdict url attempt outcome))

/-- What a fetch gives after its last attempt. -/
def lastly (outcome : Option (Except Failure Fetched)) : Option (Except FetchError Fetched) :=
  outcome.map fun r => r.mapError (·.error)

/-- Attempts from number `attempt` on, with so many left after it. -/
def attempts (f : Fetching) (url : String) (attempt : Nat) :
    (left : Nat) → Activity σ (Option (Except FetchError Fetched))
  | 0 => (f.tryOnce url attempt).bind fun outcome => .done (lastly outcome)
  | left + 1 => (f.tryOnce url attempt).bind fun
    | some (.error failure) =>
      if failure.error.isRetryable then
        Activity.clocks.bind fun clocks =>
          .await f.deadline (.pause (failure.delay attempt clocks.uptime)) fun
            | none => .done none
            | some _ => f.attempts url (attempt + 1) left
      else .done (some (.error failure.error))
    | outcome => .done (lastly outcome)

/-- Fetches a document. The result is `none` if the deadline passed. -/
def fetch (f : Fetching) (url : String) : Activity σ (Option (Except FetchError Fetched)) :=
  f.attempts url 0 f.maxRetries

end Fetching

end Harvest.Web
