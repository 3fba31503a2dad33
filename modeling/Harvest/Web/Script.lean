import Harvest.Web.Request

/-!
A web whose servers answer by a script: to the first request for an address comes the first response
of its list, to the next the second, and the last response stands for all later ones. Redirects are
followed; every request that a server gets is noted.
-/

namespace Harvest.Web

/-- How a server fails to answer. -/
inductive Breakdown where
  /-- Closes the connection. -/
  | reset
  /-- Closes the connection in the middle of the body. -/
  | truncate
  /-- Says nothing for so many nanoseconds, and then nothing either. -/
  | stall (length : Nat)
  /-- The same, but after the headers. -/
  | stallBody (length : Nat)
  deriving DecidableEq

structure Response where
  status : Nat
  headers : List (String × List UInt8)
  body : List UInt8
  breakdown : Option Breakdown
  deriving DecidableEq

/-- The answer of a server that does not know an address. -/
def Response.unknown : Response := ⟨404, [], [], none⟩

/-- The reply in a response, or what happens instead. Only the body of a success is waited for. -/
def Response.read (r : Response) (url : Url) : Nat × Outcome :=
  let reply : Reply := ⟨url.text, r.status, r.headers, r.body⟩
  match r.breakdown with
  | none => (0, .reply reply)
  | some .reset => (0, .network "connection closed before message completed")
  | some .truncate => (0, if reply.isSuccess then .network "end of file before message length reached"
      else .reply reply)
  | some (.stall length) => (length, .timeout)
  | some (.stallBody length) => if reply.isSuccess then (length, .timeout) else (0, .reply reply)

/-- A request that reached a server. -/
structure Arrival where
  uptime : Nat
  url : Url
  userAgent : String
  deriving DecidableEq

structure Script where
  /-- Whether requests get to any server at all. -/
  reachable : Bool
  /-- The responses of each address. -/
  pages : List (String × List Response)
  arrivals : List Arrival
  deriving DecidableEq

namespace Script

/-- A web with these responses and no request so far. -/
def new (reachable : Bool) (pages : List (String × List Response)) : Script := ⟨reachable, pages, []⟩

/-- How many requests came for an address. -/
def countOf (web : Script) (address : String) : Nat :=
  web.arrivals.countP fun a => Request.address a.url == address

/-- The response to the next request for an address. -/
def responseFor (web : Script) (address : String) : Response :=
  match web.pages.lookup address with
  | none => .unknown
  | some responses => (responses[web.countOf address]?.or responses.getLast?).getD .unknown

/-- The same web after a request. -/
def noting (web : Script) (arrival : Arrival) : Script :=
  { web with arrivals := web.arrivals ++ [arrival] }

def isRedirect (status : Nat) : Bool := [301, 302, 303, 307, 308].contains status

/-- Where a redirect leads, if anywhere. -/
def target? (url : Url) (r : Reply) : Option Url := do
  if isRedirect r.status then
    let location ← Text.Utf8.decode? (← r.header? "location")
    let target ← (url.resolve (String.ofList location)).toOption
    if isSendable target then some target else none
  else none

/-- What became of a request, and how long it took. -/
structure Exchange where
  web : Script
  elapsed : Nat
  outcome : Outcome

/-- Sends a request, with at most so many requests in all. -/
def sendFrom (userAgent : String) (web : Script) (uptime : Nat) (url : Url) : (left : Nat) → Exchange
  | 0 => ⟨web, 0, .refused "too many redirects"⟩
  | left + 1 =>
    if url.scheme != "http" || !web.reachable then ⟨web, 0, .network "error trying to connect"⟩
    else
      let response := web.responseFor (Request.address url)
      let web := web.noting ⟨uptime, url, userAgent⟩
      match response.read url with
      | (elapsed, .reply reply) =>
        match target? url reply with
        | some target => sendFrom userAgent web uptime target left
        | none => ⟨web, elapsed, .reply reply⟩
      | (elapsed, outcome) => ⟨web, elapsed, outcome⟩

/-- How many requests are made for one, redirects included. -/
def maxRequests : Nat := 10

/-- Sends a request. -/
def send (web : Script) (uptime : Nat) (request : Request) : Exchange :=
  web.sendFrom request.userAgent uptime request.url maxRequests

end Script

end Harvest.Web
