import Harvest.Proofs.Time.Instant
import Harvest.Time.Rfc3339
import Mathlib.Tactic.Ring

/-!
Timestamps are faithful: a stored timestamp reads back as its instant cut off to microseconds, and
timestamps are ordered as text the way their instants are in time. Both hold for years of four digits.
-/

namespace Harvest

/-- Whether the year is written with four digits and no sign. -/
def Instant.HasFourDigitYear (t : Instant) : Prop :=
  0 ≤ (Civil.fields t).date.year ∧ (Civil.fields t).date.year ≤ 9999

instance (t : Instant) : Decidable t.HasFourDigitYear :=
  inferInstanceAs (Decidable (_ ∧ _))

namespace Rfc3339

/-! ### Digits -/

private def digitChar (d : Nat) : Char := Char.ofNat (48 + d)

private theorem digitChar_lt : ∀ d < 10, ∀ e < 10, (digitChar d < digitChar e ↔ d < e) := by decide

private theorem digitChar_inj : ∀ d < 10, ∀ e < 10, digitChar d = digitChar e → d = e := by decide

private theorem digitChar_isDigit :
    ∀ d < 10, Decimal.isDigit (digitChar d) = true ∧ Decimal.digitValue (digitChar d) = d := by decide

theorem digits_zero (n : Nat) : digits 0 n = [] := rfl

theorem digits_succ (width n : Nat) :
    digits (width + 1) n = digitChar (n / 10 ^ width % 10) :: digits width n := by
  unfold digits
  rw [List.range_succ_eq_map, List.map_cons, List.map_map]
  congr 1
  apply List.map_congr_left
  intro i _
  have exponent : width + 1 - 1 - (i + 1) = width - 1 - i := by omega
  simp only [Function.comp, exponent]

theorem digits_length (width n : Nat) : (digits width n).length = width := by
  simp [digits]

theorem digits_areDigits (width n : Nat) : ∀ c ∈ digits width n, Decimal.isDigit c = true := by
  intro c member
  obtain ⟨i, -, rfl⟩ := List.mem_map.mp member
  exact (digitChar_isDigit _ (Nat.mod_lt _ (by decide))).1

theorem ofDigits_digits (width n : Nat) : Decimal.ofDigits (digits width n) = n % 10 ^ width := by
  have go (seen : Nat) : (digits width n).foldl (fun n c => n * 10 + Decimal.digitValue c) seen =
      seen * 10 ^ width + n % 10 ^ width := by
    induction width generalizing seen with
    | zero => simp [digits_zero, Nat.mod_one]
    | succ width ih =>
      rw [digits_succ, List.foldl_cons, ih, (digitChar_isDigit _ (Nat.mod_lt _ (by decide))).2,
        Nat.mod_pow_succ, Nat.pow_succ]
      ring
  simpa [Decimal.ofDigits] using go 0

theorem digits_append_lt {width a b : Nat} (fits : a < 10 ^ width) (fits' : b < 10 ^ width)
    (rest rest' : List Char) :
    digits width a ++ rest < digits width b ++ rest' ↔ a < b ∨ a = b ∧ rest < rest' := by
  have go (same : a / 10 ^ width = b / 10 ^ width) :
      digits width a ++ rest < digits width b ++ rest' ↔ a < b ∨ a = b ∧ rest < rest' := by
    clear fits fits'
    induction width with
    | zero =>
      simp only [Nat.pow_zero, Nat.div_one] at same
      simp [digits_zero, same]
    | succ width ih =>
      rw [Nat.pow_succ, ← Nat.div_div_eq_div_mul, ← Nat.div_div_eq_div_mul] at same
      have small (n : Nat) : n / 10 ^ width % 10 < 10 := Nat.mod_lt _ (by decide)
      rw [digits_succ, digits_succ, List.cons_append, List.cons_append, List.cons_lt_cons_iff,
        digitChar_lt _ (small a) _ (small b)]
      rcases Nat.lt_trichotomy (a / 10 ^ width) (b / 10 ^ width) with less | equal | more
      · have : a < b := Nat.lt_of_div_lt_div less
        have : a / 10 ^ width % 10 < b / 10 ^ width % 10 := by omega
        simp [*]
      · rw [ih equal, equal]
        simp
      · have : b < a := Nat.lt_of_div_lt_div more
        have digit : b / 10 ^ width % 10 < a / 10 ^ width % 10 := by omega
        have other := digitChar_inj _ (small a) _ (small b)
        constructor
        · rintro (less | ⟨equal, -⟩)
          · omega
          · have := other equal
            omega
        · omega
  exact go (by rw [Nat.div_eq_of_lt fits, Nat.div_eq_of_lt fits'])

/-! ### Order -/

/-- What a timestamp shows of the fields of an instant, in order. -/
private theorem micros_toList {t : Instant} (year : t.HasFourDigitYear) :
    (micros t).toList = digits 4 (Civil.fields t).date.year.toNat ++
      ('-' :: (digits 2 (Civil.fields t).date.month ++
      ('-' :: (digits 2 (Civil.fields t).date.day ++
      ('T' :: (digits 2 (Civil.fields t).hour ++
      (':' :: (digits 2 (Civil.fields t).minute ++
      (':' :: (digits 2 (Civil.fields t).second ++
      ('.' :: (digits 6 ((Civil.fields t).nanos / 1000) ++ ['Z'])))))))))))) := by
  unfold Instant.HasFourDigitYear at year
  simp [micros, stem, yearText, year]

private theorem fields_small (t : Instant) :
    (Civil.fields t).date.isValid = true ∧ (Civil.fields t).hour < 24 ∧ (Civil.fields t).minute < 60 ∧
      (Civil.fields t).second ≤ 60 ∧ (Civil.fields t).nanos < 1000000000 := by
  refine ⟨Civil.dateOf_isValid _, ?_, ?_, ?_, Nat.mod_lt _ (by decide)⟩
  · simp only [Civil.fields, Instant.secondOfDay]
    omega
  · simp only [Civil.fields]
    omega
  · simp only [Civil.fields]
    split <;> omega

/-- The time of day in seconds, and where a leap second shows. -/
private theorem fields_time (t : Instant) :
    (Civil.fields t).hour * 3600 + (Civil.fields t).minute * 60 + min (Civil.fields t).second 59 =
        t.secs - 86400 * (t.secs / 86400) ∧
      ((Civil.fields t).second = 60 ∧ t.nanos = (Civil.fields t).nanos + 1000000000 ∨
        (Civil.fields t).second < 60 ∧ t.nanos = (Civil.fields t).nanos) := by
  have leap := t.leap
  have small := t.small
  simp only [Civil.fields, Instant.secondOfDay, Instant.isLeap, decide_eq_true_eq]
  split <;> omega

theorem micros_lt_iff {a b : Instant} (year : a.HasFourDigitYear) (year' : b.HasFourDigitYear) :
    micros a < micros b ↔ a.truncateMicros < b.truncateMicros := by
  obtain ⟨valid, hour, minute, second, nanos⟩ := fields_small a
  obtain ⟨valid', hour', minute', second', nanos'⟩ := fields_small b
  rw [Civil.isValid_iff] at valid valid'
  rw [String.lt_iff, micros_toList year, micros_toList year']
  unfold Instant.HasFourDigitYear at year year'
  rw [digits_append_lt (by omega) (by omega), List.cons_lt_cons_self,
    digits_append_lt (by omega) (by omega), List.cons_lt_cons_self,
    digits_append_lt (by omega) (by omega), List.cons_lt_cons_self,
    digits_append_lt (by omega) (by omega), List.cons_lt_cons_self,
    digits_append_lt (by omega) (by omega), List.cons_lt_cons_self,
    digits_append_lt (by omega) (by omega), List.cons_lt_cons_self,
    digits_append_lt (by omega) (by omega)]
  simp only [List.lt_irrefl, and_false, or_false]
  have dates : (Civil.fields a).date.precedes (Civil.fields b).date ∧ a.secs / 86400 < b.secs / 86400 ∨
      (Civil.fields a).date = (Civil.fields b).date ∧ a.secs / 86400 = b.secs / 86400 ∨
      (Civil.fields b).date.precedes (Civil.fields a).date ∧ b.secs / 86400 < a.secs / 86400 := by
    rcases Int.lt_trichotomy (a.secs / 86400) (b.secs / 86400) with before | same | behind
    · exact Or.inl ⟨Civil.dateOf_precedes before, before⟩
    · exact Or.inr (Or.inl ⟨congrArg Civil.dateOf same, same⟩)
    · exact Or.inr (Or.inr ⟨Civil.dateOf_precedes behind, behind⟩)
  change _ ↔ a.secs < b.secs ∨ a.secs = b.secs ∧ a.nanos / 1000 * 1000 < b.nanos / 1000 * 1000
  unfold Civil.Date.precedes at dates
  rcases dates with ⟨date, days⟩ | ⟨date, days⟩ | ⟨date, days⟩
  · have : a.secs < b.secs := by omega
    omega
  · obtain ⟨time, leap⟩ := fields_time a
    obtain ⟨time', leap'⟩ := fields_time b
    rw [date]
    omega
  · have : b.secs < a.secs := by omega
    omega

theorem micros_truncateMicros (t : Instant) : micros t.truncateMicros = micros t := by
  have fraction : t.nanos / 1000 * 1000 % 1000000000 / 1000 = t.nanos % 1000000000 / 1000 := by omega
  unfold micros Civil.fields stem
  rw [Instant.truncateMicros_isLeap]
  simp only [Instant.truncateMicros, Instant.secondOfDay, fraction]

/-- A year before 0 is written with a minus, which comes before every digit. -/
theorem micros_lt_of_negative {a b : Instant} (year : (Civil.fields a).date.year < 0)
    (year' : b.HasFourDigitYear) : micros a < micros b := by
  have sign : ∀ d < 10, '-' < digitChar d := by decide
  unfold Instant.HasFourDigitYear at year'
  have unsigned : ¬ (0 ≤ (Civil.fields a).date.year ∧ (Civil.fields a).date.year ≤ 9999) := by omega
  rw [String.lt_iff, micros_toList year', digits_succ]
  simp [micros, stem, yearText, if_neg unsigned, year, List.cons_lt_cons_iff,
    sign _ (Nat.mod_lt _ (by decide))]

/-- An instant before the years of four digits comes before them as text, too. -/
theorem micros_le_iff {a b : Instant} (year : (Civil.fields a).date.year ≤ 9999)
    (year' : b.HasFourDigitYear) : micros a ≤ micros b ↔ a.truncateMicros ≤ b.truncateMicros := by
  rcases Int.lt_or_le (Civil.fields a).date.year 0 with negative | positive
  · have before : a.secs < b.secs := by
      by_contra late
      have := Instant.year_mono (Int.not_lt.mp late)
      have := year'.1
      omega
    have text := String.not_lt.mp (String.lt_asymm (micros_lt_of_negative negative year'))
    exact iff_of_true text (Instant.le_iff.mpr (Or.inl before))
  · rw [← String.not_lt, micros_lt_iff year' ⟨positive, year⟩, not_lt]

/-! ### Reading back -/

private theorem readDigits_digits {width n : Nat} (fits : n < 10 ^ width) (rest : List Char) :
    readDigits width (digits width n ++ rest) = some (n, rest) := by
  have all : (digits width n).all Decimal.isDigit = true :=
    List.all_eq_true.mpr (digits_areDigits width n)
  have head : (digits width n ++ rest).take width = digits width n := by
    rw [List.take_append_of_le_length (by rw [digits_length]),
      List.take_of_length_le (by rw [digits_length])]
  have tail : (digits width n ++ rest).drop width = rest := by
    rw [List.drop_append_of_le_length (by rw [digits_length]),
      List.drop_of_length_le (by rw [digits_length]),
      List.nil_append]
  simp [readDigits, head, tail, digits_length, all, ofDigits_digits, Nat.mod_eq_of_lt fits]

private theorem readDigits_bind {α : Type} {width n : Nat} (fits : n < 10 ^ width) (rest : List Char)
    (next : Nat × List Char → Option α) :
    (readDigits width (digits width n ++ rest) >>= next) = next (n, rest) := by
  rw [readDigits_digits fits]
  rfl

private theorem readMark_bind {α : Type} (mark : Char) (rest : List Char) (next : List Char → Option α) :
    (readMark mark (mark :: rest) >>= next) = next rest := by
  simp [readMark]

private theorem readSeparator_bind {α : Type} (rest : List Char) (next : List Char → Option α) :
    (readSeparator ('T' :: rest) >>= next) = next rest := by
  simp [readSeparator]

private theorem readFraction_digits {n : Nat} (fits : n < 1000000) :
    readFraction ('.' :: (digits 6 n ++ ['Z'])) = some (n * 1000, ['Z']) := by
  have mark : Decimal.isDigit 'Z' = false := by decide
  have whole : (digits 6 n ++ ['Z']).takeWhile Decimal.isDigit = digits 6 n := by
    rw [List.takeWhile_append_of_pos (digits_areDigits 6 n)]
    simp [mark]
  have rest : (digits 6 n ++ ['Z']).dropWhile Decimal.isDigit = ['Z'] := by
    rw [List.dropWhile_append_of_pos (digits_areDigits 6 n)]
    simp [mark]
  have padded : (digits 6 n ++ List.replicate 9 '0').take 9 = digits 6 n ++ ['0', '0', '0'] := by
    rw [List.take_append, digits_length, List.take_of_length_le (by rw [digits_length]; decide)]
    rfl
  have value : Decimal.ofDigits (digits 6 n ++ ['0', '0', '0']) = n * 1000 := by
    have zeros : Decimal.digitValue '0' = 0 := by decide
    have number := ofDigits_digits 6 n
    rw [Nat.mod_eq_of_lt (show n < 10 ^ 6 from fits)] at number
    rw [Decimal.ofDigits, List.foldl_append, ← Decimal.ofDigits, number]
    simp only [List.foldl_cons, List.foldl_nil, zeros]
    omega
  have some : (digits 6 n).isEmpty = false := by
    rw [digits_succ]
    rfl
  simp only [readFraction, whole, rest, some, fractionNanos, padded, value, Bool.false_eq_true, if_false]

private theorem instant?_fields (t : Instant) :
    Civil.instant? { Civil.fields t with nanos := (Civil.fields t).nanos / 1000 * 1000 } 0 =
      some t.truncateMicros := by
  obtain ⟨valid, hour, minute, second, nanos⟩ := fields_small t
  obtain ⟨time, leap⟩ := fields_time t
  have days : Civil.daysOf (Civil.fields t).date = t.secs / 86400 := Civil.daysOf_dateOf _
  have secs : t.secs / 86400 * 86400 + ((Civil.fields t).hour * 3600 + (Civil.fields t).minute * 60 +
      min (Civil.fields t).second 59 : Nat) = t.secs := by omega
  have fraction : (if ((Civil.fields t).second == 60) = true then
      (Civil.fields t).nanos / 1000 * 1000 + 1000000000 else (Civil.fields t).nanos / 1000 * 1000) =
      t.nanos / 1000 * 1000 := by
    rcases leap with ⟨second, nanos⟩ | ⟨second, nanos⟩
    · simp only [second, beq_self_eq_true, if_true]
      omega
    · have : ((Civil.fields t).second == 60) = false := beq_eq_false_iff_ne.mpr (by omega)
      simp only [this, Bool.false_eq_true, if_false]
      omega
  unfold Civil.instant?
  dsimp only
  rw [fraction, days, secs]
  simp only [valid, hour, minute, second, decide_true, Bool.and_self, if_true, Int.sub_zero]
  rw [if_pos ⟨t.lower, t.upper⟩]
  exact dif_pos ⟨t.lower, t.upper, t.truncateMicros.small, t.truncateMicros.leap⟩

/-- A stored timestamp reads back as its instant, cut off to microseconds. -/
theorem parse?_micros {t : Instant} (year : t.HasFourDigitYear) :
    parse? (micros t) = some t.truncateMicros := by
  obtain ⟨valid, hour, minute, second, nanos⟩ := fields_small t
  have date := Civil.isValid_iff.mp valid
  rw [parse?, micros_toList year, parseChars?]
  unfold Instant.HasFourDigitYear at year
  rw [readDigits_bind (by omega)]
  dsimp only
  rw [readMark_bind, readDigits_bind (by omega)]
  dsimp only
  rw [readMark_bind, readDigits_bind (by omega)]
  dsimp only
  rw [readSeparator_bind, readDigits_bind (by omega)]
  dsimp only
  rw [readMark_bind, readDigits_bind (by omega)]
  dsimp only
  rw [readMark_bind, readDigits_bind (by omega), readFraction_digits (by omega)]
  simp only [readZone, beq_self_eq_true, Bool.true_or, if_true, Option.bind_eq_bind, Option.bind_some,
    List.isEmpty_nil, Bool.true_and]
  rw [Int.toNat_of_nonneg year.1]
  exact instant?_fields t

/-- A year of more digits, or before 0, is written behind a sign, where a reader expects a digit. -/
theorem parse?_micros_eq_none {t : Instant} (year : ¬ t.HasFourDigitYear) :
    parse? (micros t) = none := by
  obtain ⟨sign, rest, text, isSign⟩ : ∃ sign rest, (micros t).toList = sign :: rest ∧
      Decimal.isDigit sign = false := by
    unfold Instant.HasFourDigitYear at year
    simp only [micros, stem, yearText, if_neg year, String.toList_ofList, List.cons_append]
    refine ⟨_, _, rfl, ?_⟩
    split <;> decide
  have unread : readDigits 4 (sign :: rest) = none := by simp [readDigits, isSign]
  rw [parse?, text, parseChars?, unread]
  rfl

/-- The years of four digits start at the first midnight of year 0 and last until that of year 10000. -/
theorem hasFourDigitYear_iff {t : Instant} :
    t.HasFourDigitYear ↔ -62167219200 ≤ t.secs ∧ t.secs < 253402300800 := by
  let eve : Instant := ⟨-62167219201, 0, by decide, by decide, by decide, by decide⟩
  let first : Instant := ⟨-62167219200, 0, by decide, by decide, by decide, by decide⟩
  let last : Instant := ⟨253402300799, 0, by decide, by decide, by decide, by decide⟩
  let after : Instant := ⟨253402300800, 0, by decide, by decide, by decide, by decide⟩
  have eveYear : (Civil.fields eve).date.year = -1 := by decide
  have firstYear : (Civil.fields first).date.year = 0 := by decide
  have lastYear : (Civil.fields last).date.year = 9999 := by decide
  have afterYear : (Civil.fields after).date.year = 10000 := by decide
  unfold Instant.HasFourDigitYear
  constructor
  · rintro ⟨positive, short⟩
    constructor
    · by_contra early
      have := Instant.year_mono (show t.secs ≤ eve.secs from Int.le_of_lt_add_one (Int.not_le.mp early))
      omega
    · by_contra late
      have := Instant.year_mono (show after.secs ≤ t.secs from Int.not_lt.mp late)
      omega
  · rintro ⟨early, late⟩
    have := Instant.year_mono (show first.secs ≤ t.secs from early)
    have := Instant.year_mono (show t.secs ≤ last.secs from Int.le_of_lt_add_one late)
    omega

/-- A stored timestamp is read exactly if its year has four digits, and then as its instant cut off to
microseconds; among such timestamps the order of texts is the order of those instants. -/
theorem stored_timestamps_faithful :
    (∀ t : Instant, parse? (micros t) = (if t.HasFourDigitYear then some t.truncateMicros else none) ∧
      (t.HasFourDigitYear ↔ -62167219200 ≤ t.secs ∧ t.secs < 253402300800)) ∧
    ∀ a b : Instant, a.HasFourDigitYear → b.HasFourDigitYear →
      (micros a < micros b ↔ a.truncateMicros < b.truncateMicros) := by
  refine ⟨fun t => ⟨?_, hasFourDigitYear_iff⟩, fun a b year year' => micros_lt_iff year year'⟩
  split
  next year => exact parse?_micros year
  next year => exact parse?_micros_eq_none year

/-- Two microseconds of a leap second at the end of the year 9999, and the second that follows it. -/
theorem stored_timestamps_faithful_year_9999 :
    let earlier : Instant := ⟨253402300799, 1500000999, by decide, by decide, by decide, by decide⟩
    let later : Instant := ⟨253402300799, 1500001000, by decide, by decide, by decide, by decide⟩
    let beyond : Instant := ⟨253402300800, 0, by decide, by decide, by decide, by decide⟩
    earlier.HasFourDigitYear ∧ later.HasFourDigitYear ∧ micros earlier < micros later ∧
      micros earlier = "9999-12-31T23:59:60.500000Z" ∧
      parse? (micros earlier) = some earlier.truncateMicros ∧ parse? (micros beyond) = none := by
  intro earlier later beyond
  have year : earlier.HasFourDigitYear := by decide
  have year' : later.HasFourDigitYear := by decide
  have late : ¬ beyond.HasFourDigitYear := by decide
  obtain ⟨reads, sorts⟩ := stored_timestamps_faithful
  refine ⟨year, year', (sorts earlier later year year').mpr (by decide), by decide, ?_, ?_⟩
  · rw [(reads earlier).1, if_pos year]
  · rw [(reads beyond).1, if_neg late]

end Rfc3339

end Harvest
