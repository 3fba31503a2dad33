import Harvest.Decimal.Read
import Harvest.Time.Civil

/-!
Timestamps as text. `micros` is the stored form with six decimals, `withOffset` the shown form with
as many decimals as needed, and `parse?` reads every RFC 3339 timestamp.
-/

namespace Harvest.Rfc3339

/-- The last `width` digits of a number. -/
def digits (width : Nat) (n : Nat) : List Char :=
  (List.range width).map fun i => Char.ofNat (48 + n / Nat.pow 10 (width - 1 - i) % 10)

/-- Four digits for a year, and a sign with at least four digits outside 0 to 9999. -/
def yearText (year : Int) : List Char :=
  if 0 ≤ year ∧ year ≤ 9999 then digits 4 year.toNat
  else (if year < 0 then '-' else '+') ::
    (if year.natAbs < 10000 then digits 4 year.natAbs else Nat.toDigits 10 year.natAbs)

/-- Date and time up to the seconds. -/
def stem (f : Civil.Fields) : List Char :=
  yearText f.date.year ++ '-' :: digits 2 f.date.month ++ '-' :: digits 2 f.date.day ++
    'T' :: digits 2 f.hour ++ ':' :: digits 2 f.minute ++ ':' :: digits 2 f.second

/-- A timestamp in UTC with microseconds, the rest cut off. -/
def micros (t : Instant) : String :=
  let f := Civil.fields t
  String.ofList (stem f ++ '.' :: digits 6 (f.nanos / 1000) ++ ['Z'])

/-- A timestamp in UTC with no fraction, or three, six or nine decimals. -/
def withOffset (t : Instant) : String :=
  let f := Civil.fields t
  let fraction :=
    if f.nanos == 0 then []
    else if f.nanos % 1000000 == 0 then '.' :: digits 3 (f.nanos / 1000000)
    else if f.nanos % 1000 == 0 then '.' :: digits 6 (f.nanos / 1000)
    else '.' :: digits 9 f.nanos
  String.ofList (stem f ++ fraction ++ "+00:00".toList)

/-- Reads exactly so many digits. -/
def readDigits (count : Nat) (text : List Char) : Option (Nat × List Char) :=
  let head := text.take count
  if head.length == count && head.all Decimal.isDigit then
    some (Decimal.ofDigits head, text.drop count)
  else none

def readMark (mark : Char) : List Char → Option (List Char)
  | c :: rest => if c == mark then some rest else none
  | [] => none

/-- Nanoseconds from the digits of a fraction; digits after the ninth are cut off. -/
def fractionNanos (fraction : List Char) : Nat :=
  Decimal.ofDigits ((fraction ++ List.replicate 9 '0').take 9)

/-- Reads an optional fraction of a second. -/
def readFraction : List Char → Option (Nat × List Char)
  | '.' :: rest =>
    let fraction := rest.takeWhile Decimal.isDigit
    if fraction.isEmpty then none else some (fractionNanos fraction, rest.dropWhile Decimal.isDigit)
  | text => some (0, text)

/-- Reads hours and minutes of an offset, with what stands between them. -/
def readOffset (negative : Bool) (between : List Char → Option (List Char)) (text : List Char) :
    Option (Int × List Char) := do
  let (hours, rest) ← readDigits 2 text
  let (minutes, rest) ← readDigits 2 (← between rest)
  if minutes < 60 then
    let seconds : Int := (hours * 60 + minutes) * 60
    some (if negative then -seconds else seconds, rest)
  else none

/-- Reads `Z` or an offset with a colon. The minus may be the typographic one. -/
def readZone : List Char → Option (Int × List Char)
  | [] => none
  | c :: rest =>
    if c == 'Z' || c == 'z' then some (0, rest)
    else if c == '+' then readOffset false (readMark ':') rest
    else if c == '-' || c.toNat == 0x2212 then readOffset true (readMark ':') rest
    else none

def readSeparator : List Char → Option (List Char)
  | c :: rest => if c == 'T' || c == 't' || c == ' ' then some rest else none
  | [] => none

/-- The instant an RFC 3339 timestamp names. Offsets reach 23:59 either way. -/
def parseChars? (text : List Char) : Option Instant := do
  let (year, rest) ← readDigits 4 text
  let (month, rest) ← readDigits 2 (← readMark '-' rest)
  let (day, rest) ← readDigits 2 (← readMark '-' rest)
  let (hour, rest) ← readDigits 2 (← readSeparator rest)
  let (minute, rest) ← readDigits 2 (← readMark ':' rest)
  let (second, rest) ← readDigits 2 (← readMark ':' rest)
  let (nanos, rest) ← readFraction rest
  let (offset, rest) ← readZone rest
  if rest.isEmpty && offset.natAbs ≤ 86340 then
    Civil.instant? ⟨⟨year, month, day⟩, hour, minute, second, nanos⟩ offset
  else none

/-- The instant an RFC 3339 timestamp names. -/
def parse? (text : String) : Option Instant := parseChars? text.toList

end Harvest.Rfc3339
