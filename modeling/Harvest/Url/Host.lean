import Harvest.Decimal.Read
import Harvest.Url.Idna
import Harvest.Url.Percent

/-!
Hosts of URLs: names, and addresses of both versions of the internet protocol. Web-like schemes
have international names and number-like ones are addresses; other schemes keep a name as it is.
-/

namespace Harvest

/-- Why a text is no URL. -/
inductive Url.ParseError where
  | emptyHost
  | invalidName
  | invalidPort
  | invalidIpv4
  | invalidIpv6
  | invalidHostCharacter
  | relativeWithoutBase
  | relativeToRootless
  deriving DecidableEq

def Url.ParseError.message : Url.ParseError → String
  | emptyHost => "empty host"
  | invalidName => "invalid international domain name"
  | invalidPort => "invalid port number"
  | invalidIpv4 => "invalid IPv4 address"
  | invalidIpv6 => "invalid IPv6 address"
  | invalidHostCharacter => "invalid domain character"
  | relativeWithoutBase => "relative URL without a base"
  | relativeToRootless => "relative URL with a cannot-be-a-base base"

/-- A host: a name, which may be empty, four bytes, or eight pieces of sixteen bits. -/
inductive Url.Host where
  | name (text : String)
  | v4 (address : Nat)
  | v6 (pieces : List Nat)
  deriving DecidableEq

namespace Url.Host

/-- A number in decimal, octal or hexadecimal notation. -/
def v4Number? (text : List Char) : Option Nat :=
  let (base, digits) := match text with
    | '0' :: 'x' :: rest => (16, rest)
    | '0' :: 'X' :: rest => (16, rest)
    | '0' :: c :: rest => (8, c :: rest)
    | text => (10, text)
  let value? (c : Char) : Option Nat :=
    let n :=
      if '0' ≤ c && c ≤ '9' then c.toNat - 48
      else if 'a' ≤ c && c ≤ 'f' then c.toNat - 87
      else if 'A' ≤ c && c ≤ 'F' then c.toNat - 55
      else 16
    if n < base then some n else none
  if text.isEmpty then none
  else (digits.mapM value?).map fun values => values.foldl (fun n d => n * base + d) 0

/-- The last label of a name, or the one before it if that is empty. -/
def lastLabel? (name : List Char) : Option (List Char) :=
  match (Idna.splitLabels name).reverse with
  | [] :: rest => rest.head?
  | label :: _ => some label
  | [] => none

/-- Whether the last label of a name is a number. -/
def endsInNumber (name : List Char) : Bool :=
  (lastLabel? name).any fun label =>
    (!label.isEmpty && label.all Decimal.isDigit) || (v4Number? label).isSome

/-- The address of one to four numbers, the last of which fills the remaining bytes. -/
def v4OfNumbers? (numbers : List Nat) : Option Nat := do
  let last ← numbers.getLast?
  let front := numbers.dropLast
  if Nat.pow 256 (4 - front.length) ≤ last || front.any (255 < ·) then none
  else some (front.foldl (fun n d => n * 256 + d) 0 * Nat.pow 256 (4 - front.length) + last)

/-- The labels of a name, less an empty one at the end. -/
def v4Labels (name : List Char) : List (List Char) :=
  let labels := Idna.splitLabels name
  if labels.getLast? == some [] then labels.dropLast else labels

/-- An address of numbers with points between them. -/
def v4? (name : List Char) : Option Nat :=
  if 4 < (v4Labels name).length then none else (v4Labels name).mapM v4Number? >>= v4OfNumbers?

def hexDigit? (c : Char) : Option Nat :=
  if '0' ≤ c && c ≤ '9' then some (c.toNat - 48)
  else if 'a' ≤ c && c ≤ 'f' then some (c.toNat - 87)
  else if 'A' ≤ c && c ≤ 'F' then some (c.toNat - 55)
  else none

/-- A piece of one to four hexadecimal digits. -/
def readPiece (text : List Char) : Option (Nat × List Char) :=
  let digits := (text.take 4).takeWhile fun c => (hexDigit? c).isSome
  if digits.isEmpty then none
  else some (digits.foldl (fun n c => n * 16 + (hexDigit? c).getD 0) 0, text.drop digits.length)

/-- A decimal number below 256 without a leading zero. -/
def readByte (text : List Char) : Option (Nat × List Char) :=
  let digits := text.takeWhile Decimal.isDigit
  let n := Decimal.ofDigits digits
  if digits.isEmpty || 255 < n || (1 < digits.length && digits.head? == some '0') then none
  else some (n, text.drop digits.length)

/-- The two last pieces written as four decimal bytes. -/
def readEmbedded (text : List Char) : Option (List Nat) := do
  let (a, rest) ← readByte text
  let (b, rest) ← readByte (← dot rest)
  let (c, rest) ← readByte (← dot rest)
  let (d, rest) ← readByte (← dot rest)
  if rest.isEmpty then some [a * 256 + b, c * 256 + d] else none
where
  dot : List Char → Option (List Char)
    | '.' :: rest => some rest
    | _ => none

/-- Reads pieces with colons between them; `gap` says where a double colon stood, which takes the
room of a piece at least. -/
def readPieces (pieces : List Nat) (gap : Option Nat) :
    (fuel : Nat) → List Char → Option (List Nat × Option Nat)
  | 0, _ => none
  | _ + 1, [] => some (pieces, gap)
  | fuel + 1, c :: rest =>
    let used := pieces.length + (if gap.isSome then 1 else 0)
    if 8 ≤ used then none
    else if c == ':' then
      if gap.isSome then none else readPieces pieces (some pieces.length) fuel rest
    else do
      let (piece, after) ← readPiece (c :: rest)
      match after with
      | [] => some (pieces ++ [piece], gap)
      | '.' :: _ =>
        if 6 < used then none
        else (readEmbedded (c :: rest)).map fun last => (pieces ++ last, gap)
      | [':'] => none
      | ':' :: more => readPieces (pieces ++ [piece]) gap fuel more
      | _ => none

/-- A double colon in front is a gap; a single one is not allowed there. -/
def openGap? : List Char → Option (Option Nat × List Char)
  | ':' :: ':' :: rest => some (some 0, rest)
  | ':' :: _ => none
  | text => some (none, text)

/-- Eight pieces, with zeros in the place of the gap. -/
def fillGap? (pieces : List Nat) : (gap : Option Nat) → Option (List Nat)
  | none => if pieces.length == 8 then some pieces else none
  | some place => some (pieces.take place ++ List.replicate (8 - pieces.length) 0 ++ pieces.drop place)

/-- Eight pieces of sixteen bits, a double colon standing for the zeros left out. -/
def v6? (text : List Char) : Option (List Nat) := do
  let (gap, text) ← openGap? text
  let (pieces, gap) ← readPieces [] gap (text.length + 1) text
  fillGap? pieces gap

/-- How many zeros stand from a place on. -/
def zerosAt (pieces : List Nat) (place : Nat) : Nat := ((pieces.drop place).takeWhile (· == 0)).length

/-- The longest stretch of two or more zeros, the first of several: its place and its length. -/
def longestZeros (pieces : List Nat) : Nat × Nat :=
  (List.range pieces.length).foldl
    (fun best i => if 1 < zerosAt pieces i && best.2 < zerosAt pieces i then (i, zerosAt pieces i) else best) (0, 0)

def hexPiece (n : Nat) : List Char := Nat.toDigits 16 n

def joinPieces : List (List Char) → List Char
  | [] => []
  | [piece] => piece
  | piece :: rest => piece ++ ':' :: joinPieces rest

def v6Text (pieces : List Nat) : List Char :=
  let (place, length) := longestZeros pieces
  if length == 0 then joinPieces (pieces.map hexPiece)
  else
    joinPieces ((pieces.take place).map hexPiece) ++
      ':' :: ':' :: joinPieces ((pieces.drop (place + length)).map hexPiece)

/-- A host as it stands in a URL. -/
def text : Host → String
  | name s => s
  | v4 n => ".".intercalate ([n / 16777216, n / 65536 % 256, n / 256 % 256, n % 256].map toString)
  | v6 pieces => "[" ++ String.ofList (v6Text pieces) ++ "]"

def bracketed? (text : List Char) : Option (Except ParseError Host) :=
  match text with
  | '[' :: rest =>
    some (if rest.getLast? == some ']' then
      match v6? rest.dropLast with
      | some pieces => .ok (v6 pieces)
      | none => .error .invalidIpv6
    else .error .invalidIpv6)
  | _ => none

/-- The host of a web-like URL. -/
def parseWeb (text : List Char) : Except ParseError Host :=
  match bracketed? text with
  | some result => result
  | none =>
    match Idna.ofBytes (Percent.decode text) with
    | none => .error .invalidName
    | some [] => .error .emptyHost
    | some ascii =>
      if endsInNumber ascii then
        match v4? ascii with
        | some n => .ok (v4 n)
        | none => .error .invalidIpv4
      else .ok (name (String.ofList ascii))

def isForbidden (c : Char) : Bool :=
  c.toNat == 0 || "\t\n\r #/:<>?@[\\]^|".toList.contains c

/-- The host of a URL of any other scheme, which may be empty. -/
def parseOther (text : List Char) : Except ParseError Host :=
  match bracketed? text with
  | some result => result
  | none =>
    if text.any isForbidden then .error .invalidHostCharacter
    else .ok (name (String.ofList (Percent.encode Percent.isControl text)))

end Url.Host

end Harvest
