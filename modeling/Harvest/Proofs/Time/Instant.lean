import Harvest.Proofs.Time.Calendar
import Mathlib.Order.Defs.LinearOrder

/-!
Instants are linearly ordered. Cutting off to microseconds keeps the order and goes along with
reaching back by whole seconds; reaching back leads to no later year, and as far as the calendar does.
Only a later instant comes whole seconds after another, leap seconds or not.
-/

namespace Harvest.Instant

theorem lt_iff {a b : Instant} : a < b ↔ a.secs < b.secs ∨ a.secs = b.secs ∧ a.nanos < b.nanos := Iff.rfl

theorem le_iff {a b : Instant} : a ≤ b ↔ a.secs < b.secs ∨ a.secs = b.secs ∧ a.nanos ≤ b.nanos := Iff.rfl

instance : LinearOrder Instant where
  le_refl a := by rw [le_iff]; omega
  le_trans a b c := by simp only [le_iff]; omega
  lt_iff_le_not_ge a b := by simp only [le_iff, lt_iff]; omega
  le_antisymm a b := by
    obtain ⟨secs, nanos⟩ := a
    obtain ⟨secs', nanos'⟩ := b
    simp only [le_iff, mk.injEq]
    omega
  le_total a b := by simp only [le_iff]; omega
  toDecidableLE := inferInstance
  toDecidableLT := inferInstance
  toDecidableEq := inferInstance

theorem truncateMicros_mono {a b : Instant} (le : a ≤ b) : a.truncateMicros ≤ b.truncateMicros := by
  rw [le_iff] at le ⊢
  simp only [truncateMicros]
  omega

theorem truncateMicros_isLeap (t : Instant) : t.truncateMicros.isLeap = t.isLeap := by
  rw [Bool.eq_iff_iff, isLeap, isLeap, decide_eq_true_eq, decide_eq_true_eq]
  simp only [truncateMicros]
  omega

theorem truncateMicros_idem (t : Instant) : t.truncateMicros.truncateMicros = t.truncateMicros := by
  simp only [truncateMicros, mk.injEq, true_and]
  omega

theorem minus_secs {t earlier : Instant} {seconds : Nat} (back : t.minus seconds = some earlier) :
    earlier.secs ≤ t.secs := by
  unfold minus at back
  split at back
  · cases back
    exact Int.le_refl _
  split at back
  all_goals
    unfold of? at back
    split at back
    · cases back
      dsimp only
      omega
    · cases back

private theorem of?_eq_some {secs : Int} {nanos : Nat} {t : Instant} (is : of? secs nanos = some t) :
    t.secs = secs ∧ t.nanos = nanos := by
  unfold of? at is
  split at is
  · cases is
    exact ⟨rfl, rfl⟩
  · cases is

/-- Reaching back further leads to no later instant. -/
theorem minus_anti {t nearer farther : Instant} {seconds more : Nat} (le : seconds ≤ more)
    (back : t.minus seconds = some nearer) (farBack : t.minus more = some farther) : farther ≤ nearer := by
  rw [le_iff]
  unfold minus at back farBack
  split at back
  · cases back
    split at farBack
    · cases farBack
      omega
    split at farBack
    all_goals
      have := of?_eq_some farBack
      omega
  · rw [if_neg (by omega)] at farBack
    split at back
    next leap =>
      rw [if_pos leap] at farBack
      have := of?_eq_some back
      have := of?_eq_some farBack
      omega
    next plain =>
      rw [if_neg plain] at farBack
      have := of?_eq_some back
      have := of?_eq_some farBack
      omega

private theorem of?_isSome_iff {secs : Int} {nanos : Nat} :
    (of? secs nanos).isSome = true ↔ earliestSecond ≤ secs ∧ secs ≤ latestSecond ∧
      nanos < 2000000000 ∧ (nanos < 1000000000 ∨ secs % 60 = 59) := by
  unfold of?
  split
  next fits => exact ⟨fun _ => fits, fun _ => rfl⟩
  next apart => exact ⟨nofun, fun fits => absurd fits apart⟩

/-- How far the calendar reaches back. -/
theorem minus_isSome_iff {t : Instant} {seconds : Nat} : (t.minus seconds).isSome = true ↔
    seconds = 0 ∨ earliestSecond + seconds ≤ t.secs + if t.isLeap then 1 else 0 := by
  obtain ⟨lower, upper, small, leap⟩ := And.intro t.lower (And.intro t.upper (And.intro t.small t.leap))
  unfold minus
  split
  next none => exact ⟨fun _ => Or.inl none, fun _ => rfl⟩
  next some =>
    rw [or_iff_right some]
    split
    · rw [of?_isSome_iff]
      omega
    next plain =>
      rw [isLeap, decide_eq_true_eq] at plain
      rw [of?_isSome_iff]
      omega

theorem earliest_le (t : Instant) : earliest ≤ t := by
  have lower : earliest.secs ≤ t.secs := t.lower
  have first : earliest.nanos = 0 := rfl
  rw [le_iff]
  omega

theorem minus_le {t earlier : Instant} {seconds : Nat} (back : t.minus seconds = some earlier) : earlier ≤ t :=
  minus_anti (Nat.zero_le _) rfl back

/-- The instant lies so many seconds before another, with the same part of a second. -/
def IsBefore (earlier t : Instant) (seconds : Int) : Prop :=
  earlier.secs = t.secs - seconds ∧ earlier.nanos = t.nanos

private theorem of?_parts (t : Instant) : of? t.secs t.nanos = some t :=
  dif_pos ⟨t.lower, t.upper, t.small, t.leap⟩

theorem minus_eq_some_iff {t earlier : Instant} (plain : t.isLeap = false) {seconds : Nat} :
    t.minus seconds = some earlier ↔ earlier.IsBefore t seconds := by
  have direct : t.minus seconds = of? (t.secs - seconds) t.nanos := by
    unfold minus
    split
    next none => rw [none, Int.natCast_zero, Int.sub_zero, of?_parts]
    next some => rw [if_neg (by rw [plain]; exact Bool.false_ne_true)]
  rw [direct]
  constructor
  · exact of?_eq_some
  · rintro ⟨secs, nanos⟩
    rw [← secs, ← nanos, of?_parts]

/-! ### The time between instants -/

/-- The leap seconds that count between the times of the day of two instants. -/
def leapSecondsSince (a b : Instant) : Int :=
  if b.secondOfDay < a.secondOfDay ∧ b.isLeap then 1
  else if a.secondOfDay < b.secondOfDay ∧ a.isLeap then -1
  else 0

theorem nanosSince_eq (a b : Instant) : a.nanosSince b =
    (a.secs - b.secs + a.leapSecondsSince b) * 1000000000 + ((a.nanos : Int) - b.nanos) := rfl

theorem leapSecondsSince_swap (a b : Instant) : b.leapSecondsSince a = -a.leapSecondsSince b := by
  unfold leapSecondsSince
  split
  · split
    · omega
    · omega
  · split
    · omega
    · omega

/-- Outside of leap seconds the time between instants is the difference of their parts. -/
theorem nanosSince_plain {a b : Instant} (plain : a.isLeap = false) (plain' : b.isLeap = false) :
    a.nanosSince b = (a.secs - b.secs) * 1000000000 + ((a.nanos : Int) - b.nanos) := by
  have none : a.leapSecondsSince b = 0 := by
    simp only [leapSecondsSince, plain, plain', Bool.false_eq_true, and_false, if_false]
  rw [nanosSince_eq, none, Int.add_zero]

/-- Across a leap second at the end of a day, the time since a later instant may count as positive, but by less
than a second. -/
theorem nanosSince_lt_of_le {a b : Instant} (le : a ≤ b) : a.nanosSince b < 1000000000 := by
  have nanos := And.intro a.small b.small
  have leap := And.intro a.leap b.leap
  rw [le_iff] at le
  unfold nanosSince secondOfDay isLeap
  simp only [decide_eq_true_eq]
  split
  · omega
  · split
    · omega
    · omega

theorem secondsSince_swap (a b : Instant) : b.secondsSince a = -a.secondsSince b := by
  have swapped : b.nanosSince a = -a.nanosSince b := by
    have leaps := leapSecondsSince_swap a b
    simp only [nanosSince_eq]
    omega
  rw [secondsSince, swapped, Int.neg_tdiv]
  rfl

theorem lt_of_secondsSince_pos {a b : Instant} (apart : 0 < a.secondsSince b) : b < a := by
  by_contra before
  have small := nanosSince_lt_of_le (not_lt.mp before)
  have sign : Int.sign 1000000000 = 1 := rfl
  rw [secondsSince, Int.tdiv_eq_ediv] at apart
  split at apart
  · omega
  · omega

theorem lt_of_secondsSince_neg {a b : Instant} (apart : a.secondsSince b < 0) : a < b := by
  refine lt_of_secondsSince_pos ?_
  rw [secondsSince_swap]
  omega

/-! ### Years -/

theorem year_mono {a b : Instant} (le : a.secs ≤ b.secs) :
    (Civil.fields a).date.year ≤ (Civil.fields b).date.year := by
  have days : a.secs / 86400 ≤ b.secs / 86400 := Int.ediv_le_ediv (by decide) le
  rcases Int.lt_or_eq_of_le days with before | same
  · have := Civil.dateOf_precedes before
    unfold Civil.Date.precedes at this
    exact this.elim Int.le_of_lt fun same => Int.le_of_eq same.1
  · simp only [Civil.fields, same]
    exact Int.le_refl _

end Harvest.Instant
