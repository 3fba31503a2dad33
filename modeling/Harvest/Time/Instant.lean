/-!
Instants of civil time in UTC: seconds since 1970-01-01 and nanoseconds, a leap second being the
sixtieth second of a minute. Instants are ordered, and `minus` reaches back by whole seconds.
-/

namespace Harvest

def earliestSecond : Int := -8334601228800

def latestSecond : Int := 8210266876799

/-- An instant of the calendar's years -262143 to 262142. During a leap second `nanos` runs from
one to two thousand million behind second 59 of a minute. -/
structure Instant where
  secs : Int
  nanos : Nat
  lower : earliestSecond ≤ secs
  upper : secs ≤ latestSecond
  small : nanos < 2000000000
  leap : nanos < 1000000000 ∨ secs % 60 = 59
  deriving DecidableEq

namespace Instant

/-- The instant with these parts, if it is one. -/
def of? (secs : Int) (nanos : Nat) : Option Instant :=
  if h : earliestSecond ≤ secs ∧ secs ≤ latestSecond ∧ nanos < 2000000000 ∧
      (nanos < 1000000000 ∨ secs % 60 = 59) then
    some ⟨secs, nanos, h.1, h.2.1, h.2.2.1, h.2.2.2⟩
  else none

def epoch : Instant := ⟨0, 0, by decide, by decide, by decide, by decide⟩

instance : Inhabited Instant := ⟨epoch⟩

/-- The first instant there is. -/
def earliest : Instant := ⟨earliestSecond, 0, by decide, by decide, by decide, by decide⟩

instance : LT Instant := ⟨fun a b => a.secs < b.secs ∨ a.secs = b.secs ∧ a.nanos < b.nanos⟩

instance : LE Instant := ⟨fun a b => a.secs < b.secs ∨ a.secs = b.secs ∧ a.nanos ≤ b.nanos⟩

instance (a b : Instant) : Decidable (a < b) :=
  inferInstanceAs (Decidable (a.secs < b.secs ∨ a.secs = b.secs ∧ a.nanos < b.nanos))

instance (a b : Instant) : Decidable (a ≤ b) :=
  inferInstanceAs (Decidable (a.secs < b.secs ∨ a.secs = b.secs ∧ a.nanos ≤ b.nanos))

instance : Min Instant := ⟨fun a b => if a ≤ b then a else b⟩

instance : Max Instant := ⟨fun a b => if a ≤ b then b else a⟩

/-- Whether the instant lies in a leap second. -/
def isLeap (t : Instant) : Bool := 1000000000 ≤ t.nanos

/-- The same instant without what is smaller than a microsecond. -/
def truncateMicros (t : Instant) : Instant :=
  { t with
    nanos := t.nanos / 1000 * 1000
    small := by have := t.small; omega
    leap := by have := t.leap; omega }

/-- The instant so many whole seconds before, if the calendar reaches that far. A leap second counts
as the second that follows it, unless nothing is taken away. -/
def minus (t : Instant) (seconds : Nat) : Option Instant :=
  if seconds = 0 then some t
  else if t.isLeap then of? (t.secs + 1 - seconds) (t.nanos - 1000000000)
  else of? (t.secs - seconds) t.nanos

/-- The position of the instant within its day, in whole seconds. -/
def secondOfDay (t : Instant) : Int := t.secs % 86400

/-- The time from `b` to `a` in nanoseconds. A leap second counts when the later time of day lies
behind it. -/
def nanosSince (a b : Instant) : Int :=
  let leapSeconds : Int :=
    if b.secondOfDay < a.secondOfDay ∧ b.isLeap then 1
    else if a.secondOfDay < b.secondOfDay ∧ a.isLeap then -1
    else 0
  (a.secs - b.secs + leapSeconds) * 1000000000 + ((a.nanos : Int) - b.nanos)

/-- The time from `b` to `a` in whole seconds, cut off toward zero. -/
def secondsSince (a b : Instant) : Int := (a.nanosSince b).tdiv 1000000000

end Instant

end Harvest
