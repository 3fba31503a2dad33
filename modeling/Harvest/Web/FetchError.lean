/-!
Ways a fetch can fail, and whether it is worth trying again.
-/

namespace Harvest

/-- Transient failures may go away by themselves, terminal ones do not. -/
inductive FailureKind where
  | transient
  | terminal
  deriving DecidableEq

def FailureKind.name : FailureKind → String
  | transient => "transient"
  | terminal => "terminal"

namespace Web

/-- Too many requests, and every fault of the server. -/
def isRetryableStatus (status : Nat) : Bool := status == 429 || 500 ≤ status

/-- Why a fetch gave no document. `refused` is a request that could not even be made. -/
inductive FetchError where
  | timeout (url : String)
  | network (url reason : String)
  | status (url : String) (code : Nat)
  | refused (url reason : String)
  deriving DecidableEq

namespace FetchError

def message : FetchError → String
  | timeout url => "request to " ++ url ++ " timed out"
  | network url reason => "network error for " ++ url ++ ": " ++ reason
  | status url code => "HTTP " ++ toString code ++ " from " ++ url
  | refused url reason => "request for " ++ url ++ " could not be made: " ++ reason

def isRetryable : FetchError → Bool
  | timeout _ | network .. => true
  | status _ code => isRetryableStatus code
  | refused .. => false

def kind (e : FetchError) : FailureKind := if e.isRetryable then .transient else .terminal

def url : FetchError → String
  | timeout url | network url _ | status url _ | refused url _ => url

/-- The status of the answer, if the server gave one. -/
def code? : FetchError → Option Nat
  | status _ code => some code
  | _ => none

end FetchError

end Web

end Harvest
