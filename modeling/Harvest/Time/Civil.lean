import Harvest.Time.Instant

/-!
The civil calendar: days since 1970-01-01 as year, month and day, with years before 1 counted
through zero, and the fields of an instant.
-/

namespace Harvest.Civil

structure Date where
  year : Int
  month : Nat
  day : Nat
  deriving DecidableEq

/-- Years that start in March, counted in spans of 400. -/
def daysOf (d : Date) : Int :=
  let year := if d.month ≤ 2 then d.year - 1 else d.year
  let month : Nat := if d.month ≤ 2 then d.month + 9 else d.month - 3
  let span := year / 400
  let yearOfSpan := year % 400
  let dayOfYear : Int := ((153 * month + 2) / 5 + d.day - 1 : Nat)
  span * 146097 + (yearOfSpan * 365 + yearOfSpan / 4 - yearOfSpan / 100 + dayOfYear) - 719468

/-- The date a count of days falls on. -/
def dateOf (days : Int) : Date :=
  let shifted := days + 719468
  let span := shifted / 146097
  let day : Nat := (shifted % 146097).toNat
  let yearOfSpan := (day - day / 1460 + day / 36524 - day / 146096) / 365
  let dayOfYear := day - (365 * yearOfSpan + yearOfSpan / 4 - yearOfSpan / 100)
  let month := (5 * dayOfYear + 2) / 153
  let year : Int := yearOfSpan + span * 400
  { year := if month < 10 then year else year + 1
    month := if month < 10 then month + 3 else month - 9
    day := dayOfYear - (153 * month + 2) / 5 + 1 }

def isLeapYear (year : Int) : Bool := year % 4 == 0 && (year % 100 != 0 || year % 400 == 0)

def daysInMonth (year : Int) (month : Nat) : Nat :=
  if month == 2 then if isLeapYear year then 29 else 28
  else if month == 4 || month == 6 || month == 9 || month == 11 then 30
  else 31

def Date.isValid (d : Date) : Bool :=
  1 ≤ d.month && d.month ≤ 12 && 1 ≤ d.day && d.day ≤ daysInMonth d.year d.month

/-- Zero for Sunday up to six for Saturday. -/
def weekday (days : Int) : Nat := ((days + 4) % 7).toNat

/-- The fields of an instant; `second` is 60 within a leap second. -/
structure Fields where
  date : Date
  hour : Nat
  minute : Nat
  second : Nat
  nanos : Nat

def fields (t : Instant) : Fields :=
  let inDay : Nat := t.secondOfDay.toNat
  { date := dateOf (t.secs / 86400)
    hour := inDay / 3600
    minute := inDay / 60 % 60
    second := if t.isLeap then 60 else inDay % 60
    nanos := t.nanos % 1000000000 }

/-- The instant with these fields at a place whose clocks are ahead of UTC by so many seconds. -/
def instant? (f : Fields) (offset : Int) : Option Instant :=
  if f.date.isValid && f.hour < 24 && f.minute < 60 && f.second ≤ 60 then
    let inDay := f.hour * 3600 + f.minute * 60 + min f.second 59
    let nanos := if f.second == 60 then f.nanos + 1000000000 else f.nanos
    let secs := daysOf f.date * 86400 + inDay
    if earliestSecond ≤ secs ∧ secs ≤ latestSecond then Instant.of? (secs - offset) nanos else none
  else none

end Harvest.Civil
