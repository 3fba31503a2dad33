import Harvest.Proofs.Time.Instant

/-!
Reckoning with instants in words of 64 bits, days and times of the day apart. The time between two instants, and the
instant some seconds before another, come out as they do in numbers without bounds: no step leaves its word.
-/

namespace Harvest

/-- A number, if a signed word of 64 bits holds it. -/
def word? (n : Int) : Option Int :=
  if -9223372036854775808 ≤ n ∧ n ≤ 9223372036854775807 then some n else none

theorem word?_eq_some {n : Int} (fits : -9223372036854775808 ≤ n ∧ n ≤ 9223372036854775807) :
    word? n = some n := if_pos fits

/-- A span of nanoseconds, if a word holds its milliseconds. -/
def span? (nanos : Int) : Option Int :=
  if nanos.natAbs ≤ 9223372036854775807 * 1000000 then some nanos else none

theorem span?_eq_some {nanos : Int} (fits : nanos.natAbs ≤ 9223372036854775807 * 1000000) :
    span? nanos = some nanos := if_pos fits

namespace Instant

def day (t : Instant) : Int := t.secs / 86400

theorem secs_eq (t : Instant) : t.secs = t.day * 86400 + t.secondOfDay := by
  unfold day secondOfDay
  omega

theorem day_range (t : Instant) : -96465292 ≤ t.day ∧ t.day ≤ 95026236 := by
  obtain ⟨lower, upper⟩ := And.intro t.lower t.upper
  unfold earliestSecond at lower
  unfold latestSecond at upper
  unfold day
  omega

theorem secondOfDay_range (t : Instant) : 0 ≤ t.secondOfDay ∧ t.secondOfDay < 86400 := by
  unfold secondOfDay
  omega

theorem leapSecondsSince_range (a b : Instant) : -1 ≤ a.leapSecondsSince b ∧ a.leapSecondsSince b ≤ 1 := by
  unfold leapSecondsSince
  split
  · omega
  · split
    · omega
    · omega

/-- The time from `b` to `a` in nanoseconds: what lies between the days, and between the times of the day. -/
def nanosSinceInWords? (a b : Instant) : Option Int := do
  let days ← word? (a.day - b.day)
  let seconds ← word? (a.secondOfDay - b.secondOfDay + a.leapSecondsSince b)
  let whole ← span? (days * 86400 * 1000000000)
  let part ← span? (seconds * 1000000000 + ((a.nanos : Int) - b.nanos))
  span? (whole + part)

theorem nanosSinceInWords?_eq (a b : Instant) : a.nanosSinceInWords? b = some (a.nanosSince b) := by
  have difference : a.nanosSince b = (a.day - b.day) * 86400 * 1000000000 +
      ((a.secondOfDay - b.secondOfDay + a.leapSecondsSince b) * 1000000000 + ((a.nanos : Int) - b.nanos)) := by
    have := a.secs_eq
    have := b.secs_eq
    rw [nanosSince_eq]
    omega
  have days := And.intro a.day_range b.day_range
  have times := And.intro a.secondOfDay_range b.secondOfDay_range
  have leaps := leapSecondsSince_range a b
  have nanos := And.intro a.small b.small
  unfold nanosSinceInWords?
  rw [word?_eq_some (by omega), word?_eq_some (by omega)]
  simp only [Option.bind_eq_bind, Option.bind_some]
  rw [span?_eq_some (by omega), span?_eq_some (by omega)]
  simp only [Option.bind_some]
  rw [span?_eq_some (by omega), difference]

/-- The whole seconds between two instants are few enough for a word, either way. -/
theorem secondsSince_range (a b : Instant) :
    -100000000000000 ≤ a.secondsSince b ∧ a.secondsSince b ≤ 100000000000000 := by
  have days := And.intro a.day_range b.day_range
  have times := And.intro a.secondOfDay_range b.secondOfDay_range
  have wholes := And.intro a.secs_eq b.secs_eq
  have leaps := leapSecondsSince_range a b
  have nanos := And.intro a.small b.small
  have sign : Int.sign 1000000000 = 1 := rfl
  rw [secondsSince, nanosSince_eq, Int.tdiv_eq_ediv]
  split
  · omega
  · omega

/-- The instant so many seconds before, if the calendar reaches that far: the time of the day moves back, and whole
days are taken from the day. -/
def minusInWords? (t : Instant) (seconds : Int) : Option (Option Instant) := do
  if seconds = 0 then return some t
  let behind : Int := if t.isLeap then 1 else 0
  let moved ← word? (t.secondOfDay + behind - seconds)
  let day ← word? (t.day + moved / 86400)
  let second ← word? (day * 86400 + moved % 86400)
  return of? second (t.nanos % 1000000000)

theorem minusInWords?_eq (t : Instant) {seconds : Nat} (short : seconds ≤ 9223372036854775) :
    t.minusInWords? seconds = some (t.minus seconds) := by
  have small := t.small
  have words (behind : Int) (bit : 0 ≤ behind ∧ behind ≤ 1) : (do
      let moved ← word? (t.secondOfDay + behind - seconds)
      let day ← word? (t.day + moved / 86400)
      let second ← word? (day * 86400 + moved % 86400)
      return of? second (t.nanos % 1000000000)) =
        some (of? (t.secs + behind - seconds) (t.nanos % 1000000000)) := by
    have day := t.day_range
    have time := t.secondOfDay_range
    rw [word?_eq_some (by omega)]
    simp only [Option.bind_eq_bind, Option.bind_some]
    rw [word?_eq_some (by omega)]
    simp only [Option.bind_some]
    rw [word?_eq_some (by omega), t.secs_eq]
    simp only [Option.bind_some]
    congr 2
    omega
  unfold minusInWords? minus
  by_cases none : seconds = 0
  · rw [if_pos (by omega), if_pos none]
    rfl
  rw [if_neg (by omega), if_neg none]
  cases leap : t.isLeap with
  | true =>
    have late : 1000000000 ≤ t.nanos := of_decide_eq_true leap
    have nanos : t.nanos - 1000000000 = t.nanos % 1000000000 := by omega
    rw [if_pos rfl, nanos]
    exact words 1 (by decide)
  | false =>
    have early : ¬1000000000 ≤ t.nanos := of_decide_eq_false leap
    have nanos : t.nanos % 1000000000 = t.nanos := Nat.mod_eq_of_lt (by omega)
    have same := words 0 (by decide)
    rw [nanos, Int.add_zero t.secs] at same
    rw [if_neg Bool.false_ne_true, nanos]
    exact same

end Instant

end Harvest
