import Harvest.Time.Civil
import Mathlib.Tactic.IntervalCases

/-!
The calendar counts days faithfully: the date of a count of days is a date of the calendar, leads back
to that count, and comes later for a larger count. Years start in March here, so that a leap day is
the last day of its year.
-/

namespace Harvest.Civil

/-- The years before a day, counted within 400 years that start in March. -/
private def yearOfSpan (day : Nat) : Nat := (day - day / 1460 + day / 36524 - day / 146096) / 365

theorem yearOfSpan_parts {day : Nat} (inSpan : day < 146097) :
    ∃ century four year rest, century ≤ 3 ∧ four ≤ 24 ∧ year ≤ 3 ∧ rest ≤ 365 ∧
      (rest = 365 → year = 3 ∧ (four < 24 ∨ century = 3)) ∧
      yearOfSpan day = 100 * century + 4 * four + year ∧
      day = 36524 * century + 1461 * four + 365 * year + rest := by
  obtain ⟨c, r, hc, hr, hday, last⟩ :
      ∃ c r, c ≤ 3 ∧ r ≤ 36524 ∧ day = 36524 * c + r ∧ (r = 36524 → c = 3) := by
    refine ⟨min (day / 36524) 3, day - 36524 * min (day / 36524) 3, ?_, ?_, ?_, ?_⟩ <;> omega
  obtain ⟨b, s, hb, hs, hr'⟩ : ∃ b s, b ≤ 24 ∧ s ≤ 1460 ∧ r = 1461 * b + s :=
    ⟨r / 1461, r % 1461, by omega, by omega, by omega⟩
  have leaps : day / 36524 - day / 146096 = c := by omega
  have above : day / 146096 ≤ day / 36524 := by omega
  -- The division by 1460 runs ahead by one day in four years, and by one year on a last day.
  obtain ⟨e, he, fours, isLast⟩ : ∃ e, e ≤ 1 ∧ day / 1460 = 25 * c + b + e ∧
      (s = 1460 → e = 1) ∧ (e = 1 → 1364 ≤ s) := by
    refine ⟨(24 * c + b + s) / 1460, by omega, ?_, by omega, by omega⟩
    have : day = 1460 * (25 * c + b) + (24 * c + b + s) := by omega
    rw [this, Nat.mul_add_div (by decide)]
  have total : day - day / 1460 + day / 36524 - day / 146096 = 365 * (100 * c + 4 * b) + (s - e) := by
    omega
  have year : yearOfSpan day = 100 * c + 4 * b + (s - e) / 365 := by
    rw [yearOfSpan, total, Nat.mul_add_div (by decide)]
  refine ⟨c, b, (s - e) / 365, s - 365 * ((s - e) / 365), hc, hb, ?_, ?_, ?_, year, ?_⟩ <;> omega

theorem isLeapYear_iff {year : Int} :
    isLeapYear year = true ↔ year % 4 = 0 ∧ (year % 100 ≠ 0 ∨ year % 400 = 0) := by
  simp [isLeapYear]

/-- The count of days before a month of a year that starts in March. -/
def monthStart (month : Nat) : Nat := (153 * month + 2) / 5

/-- A count of days in years that start in March: whole years, and days within one. -/
theorem dateOf_parts (days : Int) :
    ∃ (year : Int) (month day : Nat), month ≤ 11 ∧
      dateOf days = ⟨if month < 10 then year else year + 1,
        if month < 10 then month + 3 else month - 9, day + 1⟩ ∧
      days + 719468 = 365 * year + year / 4 - year / 100 + year / 400 + (monthStart month + day) ∧
      monthStart month + day < monthStart (month + 1) ∧
      (month = 11 → day < 29 ∧ (day = 28 → isLeapYear (year + 1) = true)) := by
  obtain ⟨c, b, k, rest, hc, hb, hk, hrest, leap, year, parts⟩ :=
    yearOfSpan_parts (show ((days + 719468) % 146097).toNat < 146097 by omega)
  generalize hspan : (days + 719468) / 146097 = span at *
  have whole : days + 719468 = 146097 * span + (36524 * c + 1461 * b + 365 * k + rest : Nat) := by omega
  have fours : (100 * c + 4 * b + k) / 4 = 25 * c + b := by omega
  have centuries : (100 * c + 4 * b + k) / 100 = c := by omega
  have remaining : ((days + 719468) % 146097).toNat -
      (365 * yearOfSpan ((days + 719468) % 146097).toNat +
        yearOfSpan ((days + 719468) % 146097).toNat / 4 -
        yearOfSpan ((days + 719468) % 146097).toNat / 100) = rest := by
    rw [year, fours, centuries]; omega
  refine ⟨400 * span + (100 * c + 4 * b + k : Nat), (5 * rest + 2) / 153,
    rest - monthStart ((5 * rest + 2) / 153), by omega, ?_, ?_, ?_, ?_⟩
  · unfold dateOf
    dsimp only
    rw [← yearOfSpan, remaining, year, hspan]
    simp only [monthStart]
    congr 1
    congr 1 <;> omega
  · have fours : (400 * span + (100 * c + 4 * b + k : Nat)) / 4 = 100 * span + 25 * c + b := by omega
    have centuries : (400 * span + (100 * c + 4 * b + k : Nat)) / 100 = 4 * span + c := by omega
    have spans : (400 * span + (100 * c + 4 * b + k : Nat)) / 400 = span := by omega
    have month : monthStart ((5 * rest + 2) / 153) ≤ rest := by simp only [monthStart]; omega
    rw [fours, centuries, spans, whole]
    omega
  · simp only [monthStart]; omega
  · simp only [monthStart]
    intro last
    rw [isLeapYear_iff]
    omega

private def yearStart (year : Int) : Int := 365 * year + year / 4 - year / 100 + year / 400

private theorem daysOf_parts (d : Date) :
    daysOf d = yearStart (if d.month ≤ 2 then d.year - 1 else d.year) +
      (monthStart (if d.month ≤ 2 then d.month + 9 else d.month - 3) + d.day - 1 : Nat) - 719468 := by
  unfold daysOf
  dsimp only
  generalize (if d.month ≤ 2 then d.year - 1 else d.year) = year
  have fours : year / 4 = 100 * (year / 400) + year % 400 / 4 := by omega
  have centuries : year / 100 = 4 * (year / 400) + year % 400 / 100 := by omega
  rw [yearStart, fours, centuries, monthStart]
  omega

theorem daysOf_dateOf (days : Int) : daysOf (dateOf days) = days := by
  obtain ⟨year, month, day, small, date, total, -, -⟩ := dateOf_parts days
  rw [daysOf_parts, date]
  dsimp only
  by_cases early : month < 10
  · have later : ¬ month + 3 ≤ 2 := by omega
    simp only [if_pos early, if_neg later, Nat.add_sub_cancel, yearStart]
    omega
  · have months : month - 9 + 9 = month := by omega
    have later : month - 9 ≤ 2 := by omega
    simp only [if_neg early, if_pos later, Int.add_sub_cancel, months, yearStart]
    omega

def Date.precedes (d e : Date) : Prop :=
  d.year < e.year ∨ d.year = e.year ∧ (d.month < e.month ∨ d.month = e.month ∧ d.day < e.day)

/-- How long a month is, in arithmetic. -/
theorem isValid_iff {d : Date} : d.isValid = true ↔
    1 ≤ d.month ∧ d.month ≤ 12 ∧ 1 ≤ d.day ∧
      (d.month = 2 → d.day ≤ 28 ∨ d.day = 29 ∧ isLeapYear d.year = true) ∧
      (d.month = 4 ∨ d.month = 6 ∨ d.month = 9 ∨ d.month = 11 → d.day ≤ 30) ∧ d.day ≤ 31 := by
  simp only [Date.isValid, daysInMonth, Bool.and_eq_true, decide_eq_true_eq, Bool.or_eq_true, beq_iff_eq]
  by_cases leap : isLeapYear d.year = true
  all_goals
    simp only [leap]
    grind

theorem dateOf_isValid (days : Int) : (dateOf days).isValid = true := by
  obtain ⟨year, month, day, small, date, -, inMonth, february⟩ := dateOf_parts days
  rw [date, isValid_iff]
  simp only [monthStart] at inMonth
  rcases Nat.lt_or_ge month 10 with early | late
  · simp only [if_pos early]
    omega
  · have february : month = 11 → day + 1 ≤ 28 ∨ day + 1 = 29 ∧ isLeapYear (year + 1) = true := by
      intro last
      have := february last
      by_cases short : day = 28
      · exact Or.inr ⟨by omega, this.2 short⟩
      · omega
    simp only [if_neg (Nat.not_lt.mpr late)]
    refine ⟨by omega, by omega, by omega, fun two => february (by omega), by omega, by omega⟩

private def Date.marchYear (d : Date) : Int := if d.month ≤ 2 then d.year - 1 else d.year

private def Date.marchMonth (d : Date) : Nat := if d.month ≤ 2 then d.month + 9 else d.month - 3

/-- No month reaches into the next one, and no year into the next one. -/
private theorem inMonth {d : Date} (valid : d.isValid = true) :
    1 ≤ d.day ∧ monthStart d.marchMonth + d.day ≤ monthStart (d.marchMonth + 1) ∧
      yearStart d.marchYear + (monthStart d.marchMonth + d.day : Nat) ≤ yearStart (d.marchYear + 1) := by
  rw [isValid_iff, isLeapYear_iff] at valid
  obtain ⟨first, last, some, february, short, long⟩ := valid
  have month : d.month ≤ 2 ∧ d.marchYear = d.year - 1 ∧ d.marchMonth = d.month + 9 ∨
      3 ≤ d.month ∧ d.marchMonth = d.month - 3 := by
    unfold Date.marchYear Date.marchMonth
    split <;> omega
  have inNext : monthStart d.marchMonth + d.day ≤ monthStart (d.marchMonth + 1) := by
    simp only [monthStart]
    interval_cases d.month <;> omega
  refine ⟨some, inNext, ?_⟩
  have year : 365 ≤ yearStart (d.marchYear + 1) - yearStart d.marchYear := by
    simp only [yearStart]
    omega
  rcases month with ⟨early, marchYear, marchMonth⟩ | ⟨late, marchMonth⟩
  · by_cases leapDay : d.month = 2 ∧ d.day = 29
    · have leap : 366 ≤ yearStart (d.marchYear + 1) - yearStart d.marchYear := by
        simp only [yearStart, marchYear]
        omega
      simp only [monthStart] at *
      omega
    · simp only [monthStart] at *
      omega
  · simp only [monthStart] at *
    omega

theorem daysOf_lt {d e : Date} (valid : d.isValid = true) (valid' : e.isValid = true)
    (before : d.precedes e) : daysOf d < daysOf e := by
  obtain ⟨positive, inNext, inYear⟩ := inMonth valid
  obtain ⟨positive', -, -⟩ := inMonth valid'
  have march : d.marchYear < e.marchYear ∨ d.marchYear = e.marchYear ∧
      (d.marchMonth < e.marchMonth ∨ d.marchMonth = e.marchMonth ∧ d.day < e.day) := by
    rw [isValid_iff] at valid valid'
    unfold Date.precedes at before
    unfold Date.marchYear Date.marchMonth
    split <;> split <;> omega
  rw [daysOf_parts, daysOf_parts]
  rw [← Date.marchYear, ← Date.marchYear, ← Date.marchMonth, ← Date.marchMonth]
  rcases march with year | ⟨year, month | ⟨month, day⟩⟩
  · have years : yearStart (d.marchYear + 1) ≤ yearStart e.marchYear := by
      simp only [yearStart]
      omega
    omega
  · have months : monthStart (d.marchMonth + 1) ≤ monthStart e.marchMonth := by
      simp only [monthStart]
      omega
    rw [year]
    omega
  · rw [year, month]
    omega

theorem dateOf_precedes {a b : Int} (before : a < b) : (dateOf a).precedes (dateOf b) := by
  have order : (dateOf a).precedes (dateOf b) ∨ dateOf a = dateOf b ∨
      (dateOf b).precedes (dateOf a) := by
    obtain ⟨year, month, day⟩ := dateOf a
    obtain ⟨year', month', day'⟩ := dateOf b
    simp only [Date.precedes, Date.mk.injEq]
    omega
  rcases order with earlier | same | later
  · exact earlier
  · have := congrArg daysOf same
    rw [daysOf_dateOf, daysOf_dateOf] at this
    omega
  · have := daysOf_lt (dateOf_isValid b) (dateOf_isValid a) later
    rw [daysOf_dateOf, daysOf_dateOf] at this
    omega

end Harvest.Civil
