import Harvest.Text.Blank
import Harvest.Time.Rfc3339

/-!
Dates as mail headers and feeds write them (RFC 2822), read leniently: common faults are repaired
first, then the strict grammar applies. `readFeedDate` takes either kind of timestamp.
-/

namespace Harvest.MailDate

/-- Applies a repair at the first place where it fits. -/
def repairFirst (repair : List Char → Option (List Char)) : List Char → List Char
  | [] => []
  | c :: rest =>
    match repair (c :: rest) with
    | some repaired => repaired
    | none => c :: repairFirst repair rest

/-- The rest of a text behind its start. -/
def after? (start : String) (text : List Char) : Option (List Char) :=
  if start.toList.isPrefixOf text then some (text.drop start.length) else none

private def afterAny? (starts : List String) (text : List Char) : Option (String × List Char) :=
  starts.findSome? fun start => (after? start text).map fun rest => (start, rest)

def dayNames : List String := ["Sun", "Mon", "Tue", "Wed", "Thu", "Fri", "Sat"]

def monthNames : List String :=
  ["Jan", "Feb", "Mar", "Apr", "May", "Jun", "Jul", "Aug", "Sep", "Oct", "Nov", "Dec"]

private def isLower (c : Char) : Bool := 'a' ≤ c && c ≤ 'z'

/-- `UTC`, and `-0000` at the end, become the offset zero. -/
private def repairZone (text : List Char) : Option (List Char) :=
  match after? "UTC" text with
  | some rest => some ("+0000".toList ++ rest)
  | none => if text == "-0000".toList then some "+0000".toList else none

/-- The name of a day in front of the date says nothing new and is dropped. -/
private def dropDayName (text : List Char) : Option (List Char) := do
  let (_, rest) ← afterAny? dayNames text
  after? ", " (rest.dropWhile isLower)

/-- The long name of a month is shortened. -/
private def shortenMonth (text : List Char) : Option (List Char) :=
  (afterAny? monthNames text).map fun (name, rest) => name.toList ++ rest.dropWhile isLower

private def repairMidnight (text : List Char) : Option (List Char) :=
  (after? " 24:" text).map (" 00:".toList ++ ·)

private def padHour : List Char → Option (List Char)
  | ' ' :: d :: ':' :: rest =>
    if Decimal.isDigit d then some (' ' :: '0' :: d :: ':' :: rest) else none
  | _ => none

/-- A date with the common faults mended, each at its first place. -/
def repaired (text : List Char) : List Char :=
  [repairZone, dropDayName, shortenMonth, repairMidnight, padHour].foldl
    (fun text repair => repairFirst repair text) (Text.trimEnd (Text.trimStart text))

private def skipBlanks? (text : List Char) : Option (List Char) :=
  match text with
  | c :: _ => if Text.isBlank c then some (Text.trimStart text) else none
  | [] => none

/-- Reads a short name in any letter case, and says which one it is. -/
private def readName (names : List String) (text : List Char) : Option (Nat × List Char) := do
  let head := (text.take 3).map Text.lowerAscii
  let i ← names.findIdx? fun name => name.toList.map Text.lowerAscii == head
  some (i, text.drop 3)

private def readDay (text : List Char) : Option (Nat × List Char) :=
  match text.takeWhile Decimal.isDigit with
  | [] => none
  | [_] => readDigits 1 text
  | _ => readDigits 2 text
where readDigits := Rfc3339.readDigits

/-- Years of two digits lie in 1950 to 2049, years of three digits count from 1900. -/
private def readYear (text : List Char) : Option (Nat × List Char) :=
  let digits := text.takeWhile Decimal.isDigit
  let n := Decimal.ofDigits digits
  let rest := text.dropWhile Decimal.isDigit
  if digits.length < 2 then none
  else if digits.length == 2 then some (if n < 50 then 2000 + n else 1900 + n, rest)
  else if digits.length == 3 then some (1900 + n, rest)
  else some (n, rest)

/-- Hours a named zone is behind UTC. -/
private def zoneName (name : List Char) : Option Int :=
  match String.ofList (name.map Text.lowerAscii) with
  | "gmt" | "ut" | "z" => some 0
  | "edt" => some 4
  | "est" | "cdt" => some 5
  | "cst" | "mdt" => some 6
  | "mst" | "pdt" => some 7
  | "pst" => some 8
  | "j" => none
  | other => if other.length == 1 then some 0 else none

private def isLetter (c : Char) : Bool := isLower (Text.lowerAscii c)

private def readZone (text : List Char) : Option (Int × List Char) :=
  let name := text.takeWhile isLetter
  if name.isEmpty then
    match text with
    | '+' :: rest => Rfc3339.readOffset false some rest
    | '-' :: rest => Rfc3339.readOffset true some rest
    | _ => none
  else (zoneName name).map fun behind => (-behind * 3600, text.dropWhile isLetter)

/-- Reads up to the end of a comment that is open `depth` levels deep. -/
private def closeComment (depth : Nat) : List Char → Option (List Char)
  | [] => none
  | '\\' :: _ :: rest => closeComment depth rest
  | '(' :: rest => closeComment (depth + 1) rest
  | ')' :: rest => if depth ≤ 1 then some rest else closeComment (depth - 1) rest
  | _ :: rest => closeComment depth rest

private def skipComments : (fuel : Nat) → List Char → List Char
  | 0, text => text
  | fuel + 1, text =>
    match Text.trimStart text with
    | '(' :: rest =>
      match closeComment 1 rest with
      | some rest => skipComments fuel rest
      | none => text
    | _ => text

private def readSeconds (text : List Char) : Option (Nat × List Char) :=
  match Text.trimStart text with
  | ':' :: rest => Rfc3339.readDigits 2 rest
  | _ => some (0, text)

/-- The name of a day must fit the date. -/
private def readWeekday (text : List Char) : Option (Option Nat × List Char) :=
  match readName dayNames text with
  | some (i, ',' :: rest) => some (some i, rest)
  | some _ => none
  | none => some (none, text)

/-- The instant a date names after the strict grammar. -/
def parseStrict? (text : List Char) : Option Instant := do
  let (weekday, rest) ← readWeekday (Text.trimStart text)
  let (day, rest) ← readDay (Text.trimStart rest)
  let (month, rest) ← readName monthNames (← skipBlanks? rest)
  let (year, rest) ← readYear (← skipBlanks? rest)
  let (hour, rest) ← Rfc3339.readDigits 2 (← skipBlanks? rest)
  let rest ← Rfc3339.readMark ':' (Text.trimStart rest)
  let (minute, rest) ← Rfc3339.readDigits 2 (Text.trimStart rest)
  let (second, rest) ← readSeconds rest
  let (offset, rest) ← readZone (← skipBlanks? rest)
  let date : Civil.Date := ⟨year, month + 1, day⟩
  let fits := weekday.all (· == Civil.weekday (Civil.daysOf date))
  if (skipComments rest.length rest).isEmpty && fits && offset.natAbs < 86400 then
    Civil.instant? ⟨date, hour, minute, second, 0⟩ offset
  else none

/-- The instant a date names, once its common faults are mended. -/
def parse? (text : String) : Option Instant := parseStrict? (repaired text.toList)

/-- The instant a feed's date names, in the manner of mail headers or of RFC 3339. -/
def readFeedDate (text : String) : Option Instant :=
  match parse? text with
  | some t => some t
  | none => Rfc3339.parse? (Text.trim text)

end Harvest.MailDate
