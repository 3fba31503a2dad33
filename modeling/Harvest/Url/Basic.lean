import Harvest.Url.Host

/-!
URLs as records of their parts, and their text.
-/

namespace Harvest

/-- How a scheme is read: like the web's schemes, like files, or by the general rules. -/
inductive Url.SchemeKind where
  | web
  | file
  | general
  deriving DecidableEq

def Url.SchemeKind.of (scheme : String) : Url.SchemeKind :=
  if ["http", "https", "ws", "wss", "ftp"].contains scheme then .web
  else if scheme == "file" then .file
  else .general

/-- The host that a text writes in the URLs of a kind. -/
def Url.Host.parse (kind : Url.SchemeKind) (text : List Char) : Except Url.ParseError Url.Host :=
  if kind == .general then parseOther text else parseWeb text

/-- The port that a scheme's URLs do not write. -/
def Url.defaultPort (scheme : String) : Option Nat :=
  match scheme with
  | "http" | "ws" => some 80
  | "https" | "wss" => some 443
  | "ftp" => some 21
  | _ => none

/-- A path is a list of segments, each behind a slash, or plain text that starts with none. -/
inductive Url.Path where
  | segments (list : List String)
  | rootless (text : String)
  deriving DecidableEq

structure Url where
  scheme : String
  username : String
  password : Option String
  /-- Absent where the URL has no double slash. -/
  host : Option Url.Host
  port : Option Nat
  path : Url.Path
  query : Option String
  fragment : Option String
  deriving DecidableEq

namespace Url

def Path.text : Path → String
  | segments list => String.join (list.map ("/" ++ ·))
  | rootless text => text

/-- The host's text, unless it is missing or empty. -/
def hostText? (url : Url) : Option String :=
  match url.host with
  | some host => if host.text.isEmpty then none else some host.text
  | none => none

def credentials (url : Url) : String :=
  if url.username.isEmpty && url.password.isNone then ""
  else url.username ++ url.password.elim "" (":" ++ ·) ++ "@"

def portText (url : Url) : String := url.port.elim "" (":" ++ toString ·)

def authority (url : Url) : String :=
  match url.host with
  | none =>
    match url.path with
    | .segments ("" :: _ :: _) => "/."
    | _ => ""
  | some host => "//" ++ url.credentials ++ host.text ++ url.portText

/-- A URL as text. -/
def text (url : Url) : String :=
  url.scheme ++ ":" ++ url.authority ++ url.path.text ++ url.query.elim "" ("?" ++ ·) ++
    url.fragment.elim "" ("#" ++ ·)

end Url

end Harvest
