import Harvest.Text.Charset
import Harvest.Url.Parser
import Harvest.Web.FetchError
import Harvest.Web.Retry

/-!
Requests for documents and what comes of them. A request that cannot be sent is refused before
anything is sent.
-/

namespace Harvest.Web

/-- A request; `timeout` counts nanoseconds. -/
structure Request where
  url : Url
  userAgent : String
  timeout : Nat
  deriving DecidableEq

/-- The characters of a host name that a request can carry. -/
def isHostChar (c : Char) : Bool :=
  c.isAlphanum || "!$&'()*+,-./:;=?@[]_~".toList.contains c

/-- Requests carry URLs up to this many bytes. -/
def maxUrlLength : Nat := 65534

/-- The URL that a request asks for: no credentials, no fragment. -/
def Request.address (url : Url) : String :=
  { url with username := "", password := none, fragment := none : Url }.text

/-- Whether a request can carry a URL. -/
def isSendable (url : Url) : Bool :=
  ((url.hostText?.getD "").toList.all isHostChar) &&
    decide ((Request.address url).utf8ByteSize ≤ maxUrlLength)

/-- Makes a request. Only the web's own schemes can be asked, and the name of the user agent has to
fit into a header. -/
def Request.make (url userAgent : String) (timeout : Nat) : Except String Request :=
  match Url.parse url with
  | .error e => .error e.message
  | .ok url =>
    if url.scheme != "http" && url.scheme != "https" then .error "URL scheme is not allowed"
    else if !isSendable url then .error "invalid URI character"
    else if !isHeaderValue (Text.Utf8.encodeText userAgent) then
      .error "failed to parse header value"
    else .ok ⟨{ url with username := "", password := none }, userAgent, timeout⟩

/-- An answer with its whole body. -/
structure Reply where
  finalUrl : String
  status : Nat
  headers : List (String × List UInt8)
  body : List UInt8
  deriving DecidableEq

/-- What comes of a request. -/
inductive Outcome where
  | reply (r : Reply)
  | timeout
  | network (reason : String)
  | refused (reason : String)
  deriving DecidableEq

/-- A fetched document. -/
structure Fetched where
  body : List UInt8
  /-- The character set that the answer names. -/
  charset : Option Text.Charset
  finalUrl : String
  status : Nat
  /-- How many requests it took, redirects not counting. -/
  attempts : Nat

namespace Reply

/-- The first header of a name, in any letter case. -/
def header? (r : Reply) (name : String) : Option (List UInt8) :=
  (r.headers.find? fun h => Text.lowerAsciiText h.1 == name).map (·.2)

def isSuccess (r : Reply) : Bool := 200 ≤ r.status && r.status < 300

/-- The delay after which the server wants to be asked again. -/
def retryAfter? (r : Reply) : Option Nat := (r.header? "retry-after").bind Web.retryAfter?

private def unquoted (text : List Char) : List Char :=
  match text with
  | '"' :: rest => rest.takeWhile (· != '"')
  | text => text

/-- The value of a parameter `charset` of a content type. -/
def charsetLabel? (contentType : String) : Option (List Char) :=
  (contentType.splitOn ";").tail.findSome? fun parameter =>
    let parts := (Text.trim parameter).toList
    let name := Text.lowerAsciiText (String.ofList (parts.takeWhile (· != '=')))
    if name == "charset" && parts.contains '=' then
      some (unquoted ((parts.dropWhile (· != '=')).drop 1))
    else none

/-- The character set that the answer names. -/
def charset? (r : Reply) : Option Text.Charset := do
  let value ← headerText? (← r.header? "content-type")
  Text.Charset.ofLabel? (← charsetLabel? value)

end Reply

/-- The text of a document. A byte order mark outweighs what the answer says, and without either the
text is UTF-8. -/
def Fetched.text (f : Fetched) : String :=
  String.ofList (match f.body with
    | 0xEF :: 0xBB :: 0xBF :: rest => Text.Charset.utf8.decodeLossy rest
    | 0xFF :: 0xFE :: rest => (Text.Charset.utf16 false).decodeLossy rest
    | 0xFE :: 0xFF :: rest => (Text.Charset.utf16 true).decodeLossy rest
    | body => (f.charset.getD .utf8).decodeLossy body)

end Harvest.Web
