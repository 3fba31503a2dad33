import Harvest.Url.Basic

/-!
Reading URLs, absolute ones and such that are relative to a base.
-/

namespace Harvest.Url

/-- Blanks and control characters at the ends do not count, nor line breaks and tabs anywhere. -/
def cleanInput (text : String) : List Char :=
  let outer (c : Char) : Bool := c.toNat ≤ 32
  let inner := ((text.toList.dropWhile outer).reverse.dropWhile outer).reverse
  inner.filter fun c => c != '\t' && c != '\n' && c != '\r'

def isLetter (c : Char) : Bool := ('a' ≤ c && c ≤ 'z') || ('A' ≤ c && c ≤ 'Z')

def inScheme (c : Char) : Bool :=
  isLetter c || Decimal.isDigit c || c == '+' || c == '-' || c == '.'

/-- Splits off the scheme in lower case. -/
def splitScheme (text : List Char) : Option (String × List Char) :=
  match text with
  | c :: _ =>
    if isLetter c then
      match text.dropWhile inScheme with
      | ':' :: rest => some (Text.lowerAsciiText (String.ofList (text.takeWhile inScheme)), rest)
      | _ => none
    else none
  | [] => none

def isSlash (c : Char) : Bool := c == '/' || c == '\\'

/-- Whether a character ends the authority or a segment of the path. -/
def isDivider (kind : SchemeKind) (c : Char) : Bool :=
  c == '/' || (c == '\\' && kind != .general)

def endsPath (c : Char) : Bool := c == '?' || c == '#'

/-- Whether a character ends what stands between the slashes and the path on the web. -/
def endsArea (c : Char) : Bool := isSlash c || endsPath c

def isDriveLetter (segment : List Char) : Bool :=
  match segment with
  | [c, d] => isLetter c && (d == ':' || d == '|')
  | _ => false

def isDoubleDot (segment : String) : Bool :=
  ["..", "%2e%2e", "%2e.", ".%2e"].contains (Text.lowerAsciiText segment)

def isSingleDot (segment : String) : Bool :=
  [".", "%2e"].contains (Text.lowerAsciiText segment)

/-- The segments of a path with their dots resolved. Each comes with a flag whether a slash follows;
`done` is reversed. -/
def resolveDots (kind : SchemeKind) (done : List String) : List (List Char × Bool) → List String
  | [] => done.reverse
  | (raw, slash) :: rest =>
    let segment := String.ofList (Percent.encode Percent.inPath raw)
    if isDoubleDot segment then
      let shorter := match done with
        | [only] => if kind == .file && isDriveLetter only.toList then [only] else []
        | done => done.drop 1
      resolveDots kind (if slash then shorter else "" :: shorter) rest
    else if isSingleDot segment then resolveDots kind (if slash then done else "" :: done) rest
    else if kind == .file && done.isEmpty && isDriveLetter raw then
      resolveDots kind (String.ofList (raw.take 1 ++ [':']) :: done) rest
    else resolveDots kind (segment :: done) rest

/-- Cuts the text of a path, which has no query, at its slashes. -/
def cutSegments (kind : SchemeKind) (pending : List Char) : List Char → List (List Char × Bool)
  | [] => [(pending.reverse, false)]
  | c :: rest =>
    if isDivider kind c then (pending.reverse, true) :: cutSegments kind [] rest
    else cutSegments kind (c :: pending) rest

def dropDivider (kind : SchemeKind) (text : List Char) : List Char :=
  if text.head?.any (isDivider kind) then text.drop 1 else text

/-- The segments that follow `base`, read up to a query or fragment. -/
def readPath (kind : SchemeKind) (base : List String) (text : List Char) :
    List String × List Char :=
  let path := text.takeWhile (!endsPath ·)
  let segments := resolveDots kind base.reverse (cutSegments kind [] path)
  let segments :=
    if kind == .file then
      let full := segments.dropWhile (·.isEmpty)
      if full.isEmpty then [""] else full
    else segments
  (segments, text.dropWhile (!endsPath ·))

/-- Reads what follows the path. -/
def readQuery (kind : SchemeKind) (text : List Char) : Option String × Option String :=
  let fragment? (text : List Char) : Option String :=
    match text with
    | '#' :: rest => some (String.ofList (Percent.encode Percent.inFragment rest))
    | _ => none
  match text with
  | '?' :: rest =>
    let set := if kind == .general then Percent.inQuery else Percent.inSpecialQuery
    (some (String.ofList (Percent.encode set (rest.takeWhile (· != '#')))),
      fragment? (rest.dropWhile (· != '#')))
  | text => (none, fragment? text)

def finish (kind : SchemeKind) (url : Url) (rest : List Char) : Url :=
  let (query, fragment) := readQuery kind rest
  { url with query, fragment }

/-- What stands before the host. -/
structure Credentials where
  username : String
  password : Option String

/-- Splits a text at the last of a character. -/
def splitLast (mark : Char) (text : List Char) : Option (List Char × List Char) :=
  if text.contains mark then
    let tail := (text.reverse.takeWhile (· != mark)).reverse
    some (text.take (text.length - tail.length - 1), tail)
  else none

def readCredentials (text : List Char) : Credentials :=
  let encode (part : List Char) : String := String.ofList (Percent.encode Percent.inUserInfo part)
  let password := (text.dropWhile (· != ':')).drop 1
  { username := encode (text.takeWhile (· != ':'))
    password := if password.isEmpty then none else some (encode password) }

/-- The length of a host: it ends at a colon outside brackets. -/
def hostLength (inside : Bool) : List Char → Nat
  | [] => 0
  | c :: rest =>
    if c == ':' && !inside then 0
    else hostLength (if c == '[' then true else if c == ']' then false else inside) rest + 1

/-- The port behind the host, if there is one that the scheme does not imply. -/
def readPort (scheme : String) (text : List Char) : Except ParseError (Option Nat × List Char) :=
  let digits := text.takeWhile Decimal.isDigit
  let port := Decimal.ofDigits digits
  let rest := text.dropWhile Decimal.isDigit
  if 65535 < port || !rest.head?.all endsArea then .error .invalidPort
  else .ok (if digits.isEmpty || defaultPort scheme == some port then none else some port, rest)

/-- The credentials in front of a host, and what is left behind them. A lone mark counts only where the URL
ends with it. -/
def splitCredentials (area : List Char) (atEnd : Bool) : Except ParseError (Credentials × List Char) :=
  match splitLast '@' area with
  | none => .ok (⟨"", none⟩, area)
  | some ([], []) => if atEnd then .ok (⟨"", none⟩, []) else .error .emptyHost
  | some (before, rest) => .ok (readCredentials before, rest)

/-- The host in front of a port. It is not empty where credentials or a port stand beside it. -/
def readHost (kind : SchemeKind) (credentials : Credentials) (area : List Char) : Except ParseError Host := do
  let text := area.take (hostLength false area)
  if kind == .web && text.isEmpty then throw .emptyHost
  let host ← Host.parse kind text
  if text.isEmpty && (!credentials.username.isEmpty || credentials.password.isSome || !area.isEmpty) then
    throw .emptyHost
  return host

/-- Reads the port that may stand in front of a path. -/
def readPort? (scheme : String) : List Char → Except ParseError (Option Nat × List Char)
  | ':' :: rest => readPort scheme rest
  | rest => .ok (none, rest)

/-- Reads what follows the authority. The general rules know URLs that end there. -/
def readTail (kind : SchemeKind) (url : Url) (text : List Char) : Url :=
  if kind == .general && text.head?.all endsPath then finish kind url text
  else
    let (segments, rest) := readPath kind [] (dropDivider kind text)
    finish kind { url with path := .segments segments } rest

/-- Reads what follows the double slash. -/
def readAuthority (scheme : String) (text : List Char) : Except ParseError Url := do
  let kind := SchemeKind.of scheme
  let ends (c : Char) : Bool := isDivider kind c || endsPath c
  let after := text.dropWhile (!ends ·)
  let (credentials, area) ← splitCredentials (text.takeWhile (!ends ·)) after.isEmpty
  let host ← readHost kind credentials area
  let (port, rest) ← readPort? scheme (area.drop (hostLength false area) ++ after)
  return readTail kind
    { scheme, username := credentials.username, password := credentials.password, host := some host, port,
      path := .segments [], query := none, fragment := none } rest

def withoutHost (scheme : String) (path : Path) : Url :=
  { scheme, username := "", password := none, host := none, port := none, path,
    query := none, fragment := none }

/-- A URL of files on the local host. -/
def readLocal (text : List Char) : Url :=
  let (segments, rest) := readPath .file [] text
  finish .file { withoutHost "file" (.segments segments) with host := some (.name "") } rest

/-- Reads a URL of files with a host. The local host has no name; beside a drive letter no host has one. -/
def readShared (text : List Char) : Except ParseError Url := do
  let ends (c : Char) : Bool := isDivider .file c || endsPath c
  let hostText := text.takeWhile (!ends ·)
  if isDriveLetter hostText then return readLocal text
  let host ← (if hostText.isEmpty then .ok (.name "") else Host.parse .file hostText : Except ParseError Host)
  let (segments, rest) := readPath .file [] (dropDivider .file (text.dropWhile (!ends ·)))
  let hidden := host == .name "localhost" || segments.head?.any (isDriveLetter ·.toList)
  return finish .file
    { withoutHost "file" (.segments segments) with host := some (if hidden then .name "" else host) } rest

/-- Reads a URL of files. -/
def readFile (text : List Char) : Except ParseError Url :=
  match text with
  | a :: b :: rest =>
    if isSlash a && isSlash b then readShared rest else .ok (readLocal (dropDivider .file text))
  | text => .ok (readLocal (dropDivider .file text))

/-- Reads what follows the scheme and its colon. -/
def readAfterScheme (scheme : String) (text : List Char) : Except ParseError Url :=
  match SchemeKind.of scheme with
  | .web => readAuthority scheme (text.dropWhile isSlash)
  | .file => readFile text
  | .general =>
    match text with
    | '/' :: '/' :: rest => readAuthority scheme rest
    | '/' :: rest =>
      let (segments, rest) := readPath .general [] rest
      .ok (finish .general (withoutHost scheme (.segments segments)) rest)
    | text =>
      let path := Percent.encode Percent.isControl (text.takeWhile (!endsPath ·))
      .ok (finish .general (withoutHost scheme (.rootless (String.ofList path)))
        (text.dropWhile (!endsPath ·)))

/-- The URL a text writes. -/
def parse (text : String) : Except ParseError Url :=
  match splitScheme (cleanInput text) with
  | some (scheme, rest) => readAfterScheme scheme rest
  | none => .error .relativeWithoutBase

/-- The URL that a text without a scheme writes, seen from `base`. -/
def resolve (base : Url) (text : String) : Except ParseError Url :=
  let kind := SchemeKind.of base.scheme
  let input := cleanInput text
  match base.path, input with
  | _, '#' :: rest =>
    .ok { base with fragment := some (String.ofList (Percent.encode Percent.inFragment rest)) }
  | .rootless _, _ => .error .relativeToRootless
  | .segments _, [] => .ok { base with fragment := none }
  | .segments list, c :: rest =>
    let bare := { base with query := none, fragment := none }
    if c == '?' then .ok (finish kind bare input)
    else if isSlash c then
      if rest.head?.any isSlash then readAuthority base.scheme (
        if kind == .web then input.dropWhile isSlash
        else match input with
          | '/' :: '/' :: rest => rest
          | _ => input.dropWhile isSlash)
      else
        let (segments, rest) := readPath kind [] rest
        .ok (finish kind { bare with path := .segments segments } rest)
    else
      let (segments, rest) := readPath kind list.dropLast input
      .ok (finish kind { bare with path := .segments segments } rest)

end Harvest.Url
