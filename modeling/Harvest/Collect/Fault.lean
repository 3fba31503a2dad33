import Harvest.Collect.Stage
import Harvest.Config.Error
import Harvest.Store.Error
import Harvest.Url.Normalize
import Harvest.Web.FetchError

/-!
Everything that can go wrong while feeds are collected, and how lasting each fault is.
-/

namespace Harvest.Collect

inductive Fault where
  | config (e : Config.Error)
  | fetch (e : Web.FetchError)
  | malformedFeed (url reason : String)
  | feedTimeout (url : String) (seconds : Nat)
  | store (e : Store.Error)
  | badUrl (e : Url.Fault)
  | invalidArgument (reason : String)
  | invalidTransition (source target : Stage)
  | storage (reason : String)
  deriving DecidableEq

namespace Fault

def message : Fault → String
  | config e => "Configuration error: " ++ e.message
  | fetch e => "Fetch failed: " ++ e.message
  | malformedFeed url reason => "Malformed feed at " ++ url ++ ": " ++ reason
  | feedTimeout url seconds =>
    "Feed collection for " ++ url ++ " timed out after " ++ toString seconds ++ "s"
  | store e => "Storage error: " ++ e.message
  | badUrl e => "URL error: " ++ e.message
  | invalidArgument reason => "Invalid argument: " ++ reason
  | invalidTransition source target =>
    "Invalid stage transition: " ++ source.title ++ " -> " ++ target.title
  | storage reason => "Storage error: " ++ reason

/-- Timeouts, network failures and statuses worth a retry are transient, all else is terminal. -/
def kind : Fault → FailureKind
  | fetch e => e.kind
  | feedTimeout .. => .transient
  | _ => .terminal

end Fault

/-- Goes to another stage, if a run may. -/
def Stage.advance (source target : Stage) : Except Fault Stage :=
  if source.canMove target then .ok target else .error (.invalidTransition source target)

end Harvest.Collect
