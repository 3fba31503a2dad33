import Harvest.Url.Parser

/-!
The identity of an article's URL, and the key under which requests to one site are paced.
-/

namespace Harvest.Url

/-- Why a URL has no normal form. -/
inductive Fault where
  | unreadable (reason : String)
  | missingDomain
  | malformed (reason : String)
  deriving DecidableEq

def Fault.message : Fault → String
  | unreadable reason => "Failed to parse URL: " ++ reason
  | missingDomain => "Missing domain in URL"
  | malformed reason => "Malformed URL: " ++ reason

/-- Takes every leading label `www` off a host name. -/
def bareHost : List Char → List Char
  | 'w' :: 'w' :: 'w' :: '.' :: rest => bareHost rest
  | host => host

/-- The domain of a URL, in lower case. -/
def domain? (url : Url) : Option String := url.hostText?.map Text.lowerAsciiText

/-- Another host in place of the present one. -/
def withHost (url : Url) (text : List Char) : Except ParseError Url :=
  (Host.parse (SchemeKind.of url.scheme) text).map fun host => { url with host := some host }

/-- A path without its last slash; the root keeps it. -/
def Path.withoutLastSlash : Path → Path
  | rootless text => rootless text
  | segments list =>
    let list := if list.getLast? == some "" then list.dropLast else list
    segments (if list.isEmpty then [""] else list)

/-- The URL that identifies an article: no `www` labels, no query, no fragment, no last slash. -/
def normal (url : Url) : Except Fault Url :=
  match url.domain? with
  | none => .error .missingDomain
  | some host =>
    match url.withHost (bareHost host.toList) with
    | .error e => .error (.malformed ("Failed to set host: " ++ e.message))
    | .ok url =>
      .ok { url with path := url.path.withoutLastSlash, query := none, fragment := none }

/-- The normal form of a text that is a URL, blanks around it not counting. -/
def normalize (text : String) : Except Fault String :=
  match parse (Text.trim text) with
  | .error e => .error (.unreadable e.message)
  | .ok url => (normal url).map Url.text

def unknownDomain : String := "unknown-domain"

/-- The key under which requests to a URL are paced. All URLs without a host share one. -/
def domainKey (text : String) : String :=
  match parse text with
  | .ok url => url.domain?.getD unknownDomain
  | .error _ => unknownDomain

end Harvest.Url
