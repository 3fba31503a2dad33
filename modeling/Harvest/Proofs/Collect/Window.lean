import Harvest.Collect.Window
import Harvest.Proofs.Time.Reckoning
import Mathlib.Order.Bounds.Basic

/-!
Windows of time. A run is planned to start exactly as far back as configured, or with the calendar if that does not
reach so far; and what a run covered depends on the earliest and the latest of the timestamps it saw, in whatever
order it saw them. All of this is reckoned within words of 64 bits.
-/

namespace Harvest.Collect

/-! ### Where a run starts -/

/-- A span too long to be reckoned with leads out of the calendar anyway. -/
theorem reachBack_eq (t : Instant) (seconds : Nat) : reachBack t seconds = (t.minus seconds).getD .earliest := by
  unfold reachBack
  split
  next long =>
    have bound : longestReach = 9223372036854775 := by decide
    have first : earliestSecond = -8334601228800 := rfl
    have last : t.secs ≤ 8210266876799 := t.upper
    have none : t.minus seconds = none := by
      rw [← Option.not_isSome_iff_eq_none, Instant.minus_isSome_iff]
      split
      · omega
      · omega
    rw [none]
    rfl
  · rfl

theorem reachBack_le (t : Instant) (seconds : Nat) : reachBack t seconds ≤ t := by
  rw [reachBack_eq]
  cases back : t.minus seconds with
  | none => exact t.earliest_le
  | some start => exact Instant.minus_le back

/-- Reaching back further leads to no later start, also where only one of the two is in the calendar. -/
theorem reachBack_anti (t : Instant) {seconds more : Nat} (le : seconds ≤ more) :
    reachBack t more ≤ reachBack t seconds := by
  rw [reachBack_eq, reachBack_eq]
  cases farBack : t.minus more with
  | none => exact Instant.earliest_le _
  | some farther =>
    have far : (t.minus more).isSome = true := by rw [farBack]; rfl
    have near : (t.minus seconds).isSome = true := by
      rw [Instant.minus_isSome_iff] at far ⊢
      omega
    obtain ⟨nearer, back⟩ := Option.isSome_iff_exists.mp near
    rw [back]
    exact Instant.minus_anti le back farBack

/-- The start lies exactly so many seconds before an instant, or is the earliest one if no instant does. -/
def ReachesBack (start t : Instant) (seconds : Int) : Prop :=
  (∀ exact : Instant, exact.IsBefore t seconds → start = exact) ∧
    ((¬∃ exact : Instant, exact.IsBefore t seconds) → start = .earliest)

theorem reachesBack_reachBack {t : Instant} (plain : t.isLeap = false) {seconds : Int} (positive : 0 ≤ seconds) :
    ReachesBack (reachBack t seconds.toNat) t seconds := by
  have number : (seconds.toNat : Int) = seconds := Int.toNat_of_nonneg positive
  rw [reachBack_eq]
  refine ⟨fun exact before => ?_, fun apart => ?_⟩
  · have back := (Instant.minus_eq_some_iff plain).mpr (number.symm ▸ before)
    rw [back]
    rfl
  · cases back : t.minus seconds.toNat with
    | none => rfl
    | some start =>
      have before := (Instant.minus_eq_some_iff plain).mp back
      exact absurd ⟨start, number ▸ before⟩ apart

theorem compute_none (now : Instant) (hours seconds : Int) : WindowPlan.compute none now hours seconds =
    ⟨reachBack now (max hours 1 * 3600).toNat, reachBack now (max hours 1 * 3600).toNat⟩ := by
  have product : (max hours 1).toNat * 3600 = (max hours 1 * 3600).toNat := by omega
  rw [WindowPlan.compute, product]

theorem compute_some (mark now : Instant) (hours seconds : Int) : WindowPlan.compute (some mark) now hours seconds =
    ⟨mark, reachBack mark (max seconds 0).toNat⟩ := rfl

/-- So many times `size` seconds before an instant. A product that no word holds is too long a span, and leads to
the earliest instant like one that the calendar does not hold. -/
def reachBackInWords? (t : Instant) (count size : Int) : Option Instant :=
  match (word? (count * size)).filter fun seconds => decide (seconds ≤ (longestReach : Int)) with
  | none => some .earliest
  | some seconds => (t.minusInWords? seconds).map (·.getD .earliest)

private theorem reachBackInWords?_eq (t : Instant) {count size : Int} (positive : 0 ≤ count * size) :
    reachBackInWords? t count size = some (reachBack t (count * size).toNat) := by
  have bound : longestReach = 9223372036854775 := by decide
  unfold reachBackInWords?
  by_cases short : count * size ≤ longestReach
  · have number : ((count * size).toNat : Int) = count * size := Int.toNat_of_nonneg positive
    have reckoned : t.minusInWords? ((count * size).toNat : Nat) = some (t.minus (count * size).toNat) :=
      t.minusInWords?_eq (by omega)
    rw [number] at reckoned
    rw [word?_eq_some (by omega), Option.filter_some, if_pos (decide_eq_true short), reachBack_eq]
    dsimp only
    rw [reckoned]
    rfl
  · have refused : (word? (count * size)).filter (fun seconds => decide (seconds ≤ (longestReach : Int))) = none := by
      unfold word?
      split
      · rw [Option.filter_some, if_neg (by rw [decide_eq_true_eq]; exact short)]
      · rfl
    rw [refused, reachBack, if_pos (by omega)]

/-- The window of a run, with its settings and all numbers on the way in words. -/
def WindowPlan.computeInWords? (watermark : Option Instant) (now : Instant)
    (lookbackHours overlapSeconds : Int64) : Option WindowPlan :=
  match watermark with
  | none => do
    let hours ← word? (max lookbackHours.toInt 1)
    let start ← reachBackInWords? now hours 3600
    return ⟨start, start⟩
  | some expected => do
    let seconds ← word? (max overlapSeconds.toInt 0)
    let start ← reachBackInWords? expected seconds 1
    return ⟨expected, start⟩

private theorem computeInWords?_eq (watermark : Option Instant) (now : Instant) (hours seconds : Int64) :
    WindowPlan.computeInWords? watermark now hours seconds =
      some (WindowPlan.compute watermark now hours.toInt seconds.toInt) := by
  have range := And.intro hours.toInt_lt hours.le_toInt
  have range' := And.intro seconds.toInt_lt seconds.le_toInt
  cases watermark with
  | none =>
    unfold WindowPlan.computeInWords?
    dsimp only
    rw [word?_eq_some (by omega), compute_none]
    simp only [Option.bind_eq_bind, Option.bind_some]
    rw [reachBackInWords?_eq now (by omega)]
    rfl
  | some expected =>
    unfold WindowPlan.computeInWords?
    dsimp only
    rw [word?_eq_some (by omega), compute_some]
    simp only [Option.bind_eq_bind, Option.bind_some]
    rw [reachBackInWords?_eq expected (by omega), Int.mul_one]
    rfl

/-- A window is planned for any settings in words, and nothing leaves its word. The first run starts at least an hour
back, and a later one its margin before the watermark; out of leap seconds this is exact as far as the calendar
reaches, and it begins with the calendar beyond. Settings that reach further lead to no later start. -/
theorem planned_exact_or_pinned (watermark : Option Instant) (now : Instant) (hours seconds : Int64) :
    let plan := WindowPlan.compute watermark now hours.toInt seconds.toInt
    WindowPlan.computeInWords? watermark now hours seconds = some plan ∧
    (watermark = none → plan.expectedStart = plan.actualStart ∧ plan.actualStart ≤ now ∧
      (now.isLeap = false → ReachesBack plan.actualStart now (max hours.toInt 1 * 3600))) ∧
    (∀ mark, watermark = some mark → plan.expectedStart = mark ∧ plan.actualStart ≤ mark ∧
      (mark.isLeap = false → ReachesBack plan.actualStart mark (max seconds.toInt 0))) ∧
    ∀ moreHours moreSeconds : Int64, hours ≤ moreHours → seconds ≤ moreSeconds →
      let farther := WindowPlan.compute watermark now moreHours.toInt moreSeconds.toInt
      farther.expectedStart ≤ plan.expectedStart ∧ farther.actualStart ≤ plan.actualStart := by
  refine ⟨computeInWords?_eq watermark now hours seconds, ?_, ?_, ?_⟩
  · rintro rfl
    rw [compute_none]
    exact ⟨rfl, reachBack_le _ _, fun plain => reachesBack_reachBack plain (by omega)⟩
  · rintro mark rfl
    rw [compute_some]
    exact ⟨rfl, reachBack_le _ _, fun plain => reachesBack_reachBack plain (Int.le_max_right _ _)⟩
  · intro moreHours moreSeconds leHours leSeconds
    rw [Int64.le_iff_toInt_le] at leHours leSeconds
    cases watermark with
    | none =>
      rw [compute_none, compute_none]
      have start : reachBack now (max moreHours.toInt 1 * 3600).toNat ≤
        reachBack now (max hours.toInt 1 * 3600).toNat := reachBack_anti now (by omega)
      exact ⟨start, start⟩
    | some mark =>
      rw [compute_some, compute_some]
      exact ⟨le_refl _, reachBack_anti mark (by omega)⟩

/-- The start of a run in June 2025. -/
private def june : Instant := ⟨1750000000, 250000000, by decide, by decide, by decide, by decide⟩

/-- A day before it. -/
private def eveOfJune : Instant :=
  { june with secs := 1749913600, lower := by decide, upper := by decide, leap := by decide }

theorem planned_exact_or_pinned_june :
    (WindowPlan.compute none june 24 300).actualStart = eveOfJune ∧
    (WindowPlan.compute (some june) june 24 Int64.maxValue.toInt).actualStart = .earliest ∧
    (WindowPlan.compute none june Int64.maxValue.toInt 300).actualStart ≤ eveOfJune := by
  have day : (WindowPlan.compute none june 24 300).actualStart = eveOfJune :=
    (((planned_exact_or_pinned none june 24 300).2.1 rfl).2.2 rfl).1 eveOfJune ⟨by decide, rfl⟩
  refine ⟨day, ?_, ?_⟩
  · refine (((planned_exact_or_pinned (some june) june 24 Int64.maxValue).2.2.1 june rfl).2.2 rfl).2 ?_
    rintro ⟨exact, second, -⟩
    have lower : -8334601228800 ≤ exact.secs := exact.lower
    have far : exact.secs = 1750000000 - 9223372036854775807 := second
    omega
  · rw [← day]
    exact ((planned_exact_or_pinned none june 24 300).2.2.2 Int64.maxValue 300 (by decide) (by decide)).2

/-! ### What a run covered -/

namespace ObservedRange

/-- The range of some timestamps, in the order in which they are seen. -/
def ofList (times : List Instant) : ObservedRange := times.foldl record .empty

/-- The range runs from the first of the times seen to the last. -/
inductive Spans : ObservedRange → Set Instant → Prop where
  | nothing : Spans .empty ∅
  | fromTo {first last : Instant} {seen : Set Instant} (least : IsLeast seen first)
      (greatest : IsGreatest seen last) : Spans ⟨some first, some last⟩ seen

theorem Spans.record {range : ObservedRange} {seen : Set Instant} (spans : range.Spans seen) (t : Instant) :
    (range.record t).Spans (insert t seen) := by
  cases spans with
  | nothing =>
    have alone : insert t (∅ : Set Instant) = {t} := insert_empty_eq t
    rw [alone]
    exact .fromTo isLeast_singleton isGreatest_singleton
  | @fromTo first last _ least greatest =>
    have earliest : IsLeast (insert t seen) (min first t) := min_comm t first ▸ least.insert t
    have latest : IsGreatest (insert t seen) (max last t) := max_comm t last ▸ greatest.insert t
    exact .fromTo earliest latest

theorem spans_ofList (times : List Instant) : (ofList times).Spans {t | t ∈ times} := by
  have all (range : ObservedRange) (seen : Set Instant) (spans : range.Spans seen) :
      (times.foldl ObservedRange.record range).Spans (seen ∪ {t | t ∈ times}) := by
    induction times generalizing range seen with
    | nil => simpa using spans
    | cons t rest ih =>
      have same : seen ∪ {x | x ∈ t :: rest} = insert t seen ∪ {x | x ∈ rest} := by
        ext x
        simp only [Set.mem_union, Set.mem_insert_iff, Set.mem_ofPred_eq, List.mem_cons]
        tauto
      rw [same]
      exact ih _ _ (spans.record t)
  have whole := all .empty ∅ .nothing
  rw [Set.empty_union] at whole
  exact whole

variable {range : ObservedRange} {seen : Set Instant}

theorem Spans.earliest_iff (spans : range.Spans seen) (t : Instant) : range.earliest = some t ↔ IsLeast seen t := by
  cases spans with
  | nothing => exact ⟨nofun, fun least => absurd least.1 (Set.notMem_empty t)⟩
  | fromTo least _ =>
    rw [Option.some_inj]
    exact ⟨fun same => same ▸ least, least.unique⟩

theorem Spans.latest_iff (spans : range.Spans seen) (t : Instant) : range.latest = some t ↔ IsGreatest seen t := by
  cases spans with
  | nothing => exact ⟨nofun, fun greatest => absurd greatest.1 (Set.notMem_empty t)⟩
  | fromTo _ greatest =>
    rw [Option.some_inj]
    exact ⟨fun same => same ▸ greatest, greatest.unique⟩

theorem Spans.ends (spans : range.Spans seen) {t : Instant} (member : t ∈ seen) :
    ∃ first last, range = ⟨some first, some last⟩ ∧ IsLeast seen first ∧ IsGreatest seen last := by
  cases spans with
  | nothing => exact absurd member (Set.notMem_empty t)
  | fromTo least greatest => exact ⟨_, _, rfl, least, greatest⟩

/-- What was seen decides the range. -/
theorem Spans.unique {other : ObservedRange} (spans : range.Spans seen) (spans' : other.Spans seen) :
    range = other := by
  have earliest : range.earliest = other.earliest :=
    Option.ext fun t => (spans.earliest_iff t).trans (spans'.earliest_iff t).symm
  have latest : range.latest = other.latest :=
    Option.ext fun t => (spans.latest_iff t).trans (spans'.latest_iff t).symm
  cases range
  cases other
  exact ObservedRange.mk.injEq .. ▸ ⟨earliest, latest⟩

end ObservedRange

/-- The coverage of a run, with all numbers on the way in words. -/
def WindowPlan.observeInWords? (plan : WindowPlan) (observed : ObservedRange) (now : Instant) : Option Coverage := do
  let actualStart := observed.earliest.getD plan.actualStart
  let apart ← actualStart.nanosSinceInWords? plan.expectedStart
  let delta ← word? (apart.tdiv 1000000000)
  let opposite ← word? (-delta)
  return { expectedStart := plan.expectedStart
           actualStart
           observedEnd := observed.latest.getD now
           windowEnd := now
           gapSeconds := max delta 0
           overlapSeconds := max opposite 0 }

private theorem observeInWords?_eq (plan : WindowPlan) (observed : ObservedRange) (now : Instant) :
    plan.observeInWords? observed now = some (plan.observe observed now) := by
  let start := observed.earliest.getD plan.actualStart
  have delta := start.secondsSince_range plan.expectedStart
  unfold WindowPlan.observeInWords?
  simp only [Instant.nanosSinceInWords?_eq, Option.bind_eq_bind, Option.bind_some]
  change (do
    let delta ← word? (start.secondsSince plan.expectedStart)
    let opposite ← word? (-delta)
    return (⟨_, _, _, _, max delta 0, max opposite 0⟩ : Coverage)) = _
  rw [word?_eq_some (by omega)]
  simp only [Option.bind_eq_bind, Option.bind_some]
  rw [word?_eq_some (by omega)]
  rfl

/-- What is measured after any timestamps, in any order. The ends are the extremes of what was seen. Of the gap and
the overlap one is zero, and the other is the time between the two starts in whole seconds; leap seconds included, a
gap is told only if the run started late, and an overlap only if it started early. -/
theorem coverage_measured (plan : WindowPlan) (times : List Instant) (now : Instant) :
    let range := ObservedRange.ofList times
    let coverage := plan.observe range now
    let apart := coverage.actualStart.nanosSince plan.expectedStart
    (∀ t, range.earliest = some t ↔ IsLeast {x | x ∈ times} t) ∧
    (∀ t, range.latest = some t ↔ IsGreatest {x | x ∈ times} t) ∧
    (∀ others : List Instant, (∀ t, t ∈ others ↔ t ∈ times) → plan.observe (.ofList others) now = coverage) ∧
    (times = [] → coverage.actualStart = plan.actualStart ∧ coverage.observedEnd = now) ∧
    (times ≠ [] → IsLeast {x | x ∈ times} coverage.actualStart ∧
      IsGreatest {x | x ∈ times} coverage.observedEnd) ∧
    coverage.expectedStart = plan.expectedStart ∧ coverage.windowEnd = now ∧
    plan.observeInWords? range now = some coverage ∧
    0 ≤ coverage.gapSeconds ∧ 0 ≤ coverage.overlapSeconds ∧
    (coverage.gapSeconds = 0 ∨ coverage.overlapSeconds = 0) ∧
    coverage.gapSeconds - coverage.overlapSeconds = apart.tdiv 1000000000 ∧
    (coverage.actualStart.isLeap = false → plan.expectedStart.isLeap = false →
      apart = (coverage.actualStart.secs - plan.expectedStart.secs) * 1000000000 +
        ((coverage.actualStart.nanos : Int) - plan.expectedStart.nanos)) ∧
    (0 < coverage.gapSeconds → plan.expectedStart < coverage.actualStart) ∧
    (0 < coverage.overlapSeconds → coverage.actualStart < plan.expectedStart) := by
  intro range coverage apart
  have spans : range.Spans {t | t ∈ times} := ObservedRange.spans_ofList times
  have gap : coverage.gapSeconds = max (coverage.actualStart.secondsSince plan.expectedStart) 0 := rfl
  have overlap : coverage.overlapSeconds = max (-coverage.actualStart.secondsSince plan.expectedStart) 0 := rfl
  refine ⟨spans.earliest_iff, spans.latest_iff, fun others same => ?_, ?_, fun some => ?_, rfl, rfl,
    observeInWords?_eq plan range now, by omega, by omega, by omega, ?_, Instant.nanosSince_plain,
    fun late => Instant.lt_of_secondsSince_pos (by omega), fun early => Instant.lt_of_secondsSince_neg (by omega)⟩
  · have seen : {t | t ∈ others} = {t | t ∈ times} := Set.ext same
    have spans' := ObservedRange.spans_ofList others
    rw [seen] at spans'
    rw [spans'.unique spans]
  · rintro rfl
    exact ⟨rfl, rfl⟩
  · obtain ⟨t, member⟩ := List.exists_mem_of_ne_nil times some
    obtain ⟨first, last, ends, least, greatest⟩ := spans.ends member
    have start : coverage.actualStart = first := by
      change range.earliest.getD plan.actualStart = first
      rw [ends, Option.getD_some]
    have finish : coverage.observedEnd = last := by
      change range.latest.getD now = last
      rw [ends, Option.getD_some]
    rw [start, finish]
    exact ⟨least, greatest⟩
  · rw [gap, overlap]
    change _ = coverage.actualStart.secondsSince plan.expectedStart
    omega

/-- A plan to go on from within the leap second at the end of 2016. -/
private def fromLeapSecond : WindowPlan :=
  let mark := ⟨1483228799, 1500000000, by decide, by decide, by decide, by decide⟩
  ⟨mark, mark⟩

private def evening : Instant :=
  { june with secs := 1483221600, lower := by decide, upper := by decide, leap := by decide }

private def morning : Instant :=
  { june with secs := 1483254000, lower := by decide, upper := by decide, leap := by decide }

theorem coverage_measured_leap_second :
    fromLeapSecond.observe (.ofList [morning, evening, evening]) june =
      ⟨fromLeapSecond.expectedStart, evening, morning, june, 0, 7200⟩ ∧
    fromLeapSecond.observe (.ofList [evening, morning]) june =
      fromLeapSecond.observe (.ofList [morning, evening, evening]) june ∧
    evening < fromLeapSecond.expectedStart ∧ fromLeapSecond.expectedStart < morning ∧
    IsLeast {t | t ∈ [morning, evening, evening]} evening ∧
    (fromLeapSecond.observe (.ofList []) june).actualStart = fromLeapSecond.actualStart := by
  obtain ⟨-, -, same, -, ends, -, -, -, -, -, -, -, -, -, early⟩ :=
    coverage_measured fromLeapSecond [morning, evening, evening] june
  obtain ⟨-, -, -, -, -, -, -, -, -, -, -, -, -, late, -⟩ := coverage_measured fromLeapSecond [morning] june
  obtain ⟨-, -, -, planned, -⟩ := coverage_measured fromLeapSecond [] june
  have seen (t : Instant) : t ∈ [evening, morning] ↔ t ∈ [morning, evening, evening] := by
    simp only [List.mem_cons, List.not_mem_nil, or_false]
    tauto
  exact ⟨by decide, same _ seen, early (by decide), late (by decide), (ends (List.cons_ne_nil _ _)).1, (planned rfl).1⟩

end Harvest.Collect
