import Harvest.Proofs.Web.Session

/-!
What a web has ahead: the responses that the next requests for each address will get. A fetch that is
not cut short depends on nothing else, neither on the clocks nor on who waits for whom, and leaves the
outlook that its own requests have used up.
-/

namespace Harvest.Web

structure Outlook where
  reachable : Bool
  /-- The response to the request for an address that comes after so many others. -/
  response : String → Nat → Response

namespace Outlook

/-- The outlook after a request for an address. -/
def noting (o : Outlook) (address : String) : Outlook :=
  { o with response := fun other k => o.response other (if address == other then k + 1 else k) }

/-- What becomes of a request, with at most so many requests in all. -/
def send (o : Outlook) (url : Url) : (left : Nat) → Outlook × Outcome
  | 0 => (o, .refused "too many redirects")
  | left + 1 =>
    if url.scheme != "http" || !o.reachable then (o, .network "error trying to connect")
    else
      let address := Request.address url
      let later := o.noting address
      match ((o.response address 0).read url).2 with
      | .reply reply =>
        match Script.target? url reply with
        | some target => later.send target left
        | none => (later, .reply reply)
      | outcome => (later, outcome)

/-- What one attempt of a fetch amounts to. -/
def tryOnce (o : Outlook) (f : Fetching) (url : String) (attempt : Nat) :
    Outlook × Except Failure Fetched :=
  match Request.make url f.userAgent f.timeout with
  | .error reason => (o, (Outcome.refused reason).verdict url attempt)
  | .ok request =>
    if request.timeout = 0 then (o, Outcome.timeout.verdict url attempt)
    else
      let (later, outcome) := o.send request.url Script.maxRequests
      (later, outcome.verdict url attempt)

/-- What attempts from number `attempt` on amount to, with so many left after it. -/
def attempts (o : Outlook) (f : Fetching) (url : String) (attempt : Nat) :
    (left : Nat) → Outlook × Except FetchError Fetched
  | 0 =>
    let (later, outcome) := o.tryOnce f url attempt
    (later, outcome.mapError (·.error))
  | left + 1 =>
    match o.tryOnce f url attempt with
    | (later, .ok fetched) => (later, .ok fetched)
    | (later, .error failure) =>
      if failure.error.isRetryable then later.attempts f url (attempt + 1) left
      else (later, .error failure.error)

/-- What a fetch amounts to that is not cut short. -/
def fetch (o : Outlook) (f : Fetching) (url : String) : Outlook × Except FetchError Fetched :=
  o.attempts f url 0 f.maxRetries

end Outlook

namespace Script

/-- What the script has ahead. -/
def outlook (web : Script) : Outlook where
  reachable := web.reachable
  response address k :=
    match web.pages.lookup address with
    | none => .unknown
    | some responses => (responses[web.countOf address + k]?.or responses.getLast?).getD .unknown

end Script

namespace Session

end Session

namespace Fetching

variable {σ : Type} {f : Fetching} {s later : Session} {state state' : σ} {url : String} {attempt : Nat}

end Fetching

/-! ### Webs that do not change -/

namespace Outlook

variable {o : Outlook}

/-- An address answers alike whatever was requested before. -/
def IsSteady (o : Outlook) : Prop := ∀ address k, o.response address k = o.response address 0

theorem IsSteady.noting (steady : o.IsSteady) (address : String) : o.noting address = o := by
  unfold Outlook.noting
  congr 1
  funext other k
  rw [steady other k]
  exact steady other _

theorem IsSteady.send (steady : o.IsSteady) (url : Url) (left : Nat) : (o.send url left).1 = o := by
  induction left generalizing url with
  | zero => rfl
  | succ left ih =>
    rw [Outlook.send]
    split
    · rfl
    · dsimp only
      rw [steady.noting]
      split
      · split
        · exact ih _
        · rfl
      · rfl

end Outlook

namespace Session

variable {s : Session}

end Session

end Harvest.Web
