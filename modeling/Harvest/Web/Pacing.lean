import Harvest.Decimal.Shortest
import Harvest.Url.Normalize

/-!
Pacing of requests by domain. Two requests to one domain are an interval apart; requests to
different domains do not wait for each other. Times are nanoseconds since the start.
-/

namespace Harvest.Web

def nanosPerSecond : Nat := 1000000000

/-- Whole nanoseconds nearest to a number of seconds, unless it is negative or too long for 64 bits
of seconds. -/
def durationOfSeconds? (seconds : Float) : Option Nat :=
  match Decimal.classify seconds with
  | .finite b =>
    if (b.negative && b.mantissa != 0) || Nat.pow 2 64 ≤ b.numerator / b.denominator then none
    else some (Decimal.divideRound (b.numerator * nanosPerSecond) b.denominator)
  | _ => none

/-- Why a rate cannot pace anything. -/
inductive RateError where
  | notPositive (rate : Float)
  | unusable (rate : Float)

def RateError.message : RateError → String
  | notPositive rate => "requests per second must be positive, got " ++ Decimal.plain rate
  | unusable rate =>
    "requests per second " ++ Decimal.plain rate ++ " gives an unusable interval: " ++
      "cannot convert float seconds to Duration: value is either too big or NaN"

/-- The least distance of two requests at so many requests per second. -/
def intervalOfRate (rate : Float) : Except RateError Nat :=
  if !rate.isFinite || rate ≤ 0.0 then .error (.notPositive rate)
  else match durationOfSeconds? (1.0 / rate) with
    | some interval => .ok interval
    | none => .error (.unusable rate)

/-- The latest release of each domain seen so far, in the order of first requests. -/
structure Pacer where
  interval : Nat
  releases : List (String × Nat)
  deriving DecidableEq

namespace Pacer

def new (interval : Nat) : Pacer := ⟨interval, []⟩

/-- The latest release of a domain. -/
def last? (p : Pacer) (key : String) : Option Nat :=
  (p.releases.find? fun r => r.1 == key).map (·.2)

private def setRelease (key : String) (time : Nat) : List (String × Nat) → List (String × Nat)
  | [] => [(key, time)]
  | (k, t) :: rest => if k == key then (k, time) :: rest else (k, t) :: setRelease key time rest

/-- The first time at or after `time` at which a clock with this tick can stop. -/
def stopAt (tick time : Nat) : Nat := (time + tick - 1) / tick * tick

/-- When a caller that arrives at `now` is let through: at once, or when the clock stops after the
domain's latest release and the interval. -/
def releaseTime (p : Pacer) (tick : Nat) (key : String) (now : Nat) : Nat :=
  match p.last? key with
  | none => now
  | some previous =>
    let ready := previous + p.interval
    if now < ready then stopAt tick ready else now

/-- Lets one caller through. Callers of a domain queue in the order of their calls. -/
def wait (p : Pacer) (tick : Nat) (key : String) (now : Nat) : Nat × Pacer :=
  let time := p.releaseTime tick key now
  (time, { p with releases := setRelease key time p.releases })

private theorem find?_setRelease (key : String) (time : Nat) (other : String) (releases : List (String × Nat)) :
    ((setRelease key time releases).find? fun r => r.1 == other) =
      if key == other then some (key, time) else releases.find? fun r => r.1 == other := by
  induction releases with
  | nil => cases same : key == other <;> simp [setRelease, List.find?, same]
  | cons release rest ih =>
    obtain ⟨k, t⟩ := release
    cases here : k == key with
    | true =>
      obtain rfl := eq_of_beq here
      cases same : k == other <;> simp [setRelease, List.find?, same]
    | false =>
      cases found : k == other with
      | true =>
        have differs : (key == other) = false := by
          rw [← eq_of_beq found, BEq.comm]
          exact here
        simp [setRelease, List.find?, here, found, differs]
      | false => simp [setRelease, List.find?, here, found, ih]

/-- Letting a caller through sets the latest release of its domain, and of no other. -/
theorem last?_wait (p : Pacer) (tick : Nat) (key : String) (now : Nat) (other : String) :
    (p.wait tick key now).2.last? other =
      if key == other then some (p.releaseTime tick key now) else p.last? other := by
  unfold wait last?
  dsimp only
  rw [find?_setRelease]
  split
  · rfl
  · rfl

theorem le_stopAt {tick : Nat} (some : 0 < tick) (time : Nat) : time ≤ stopAt tick time := by
  unfold stopAt
  have split := Nat.div_add_mod (time + tick - 1) tick
  have part := Nat.mod_lt (time + tick - 1) some
  rw [Nat.mul_comm]
  omega

/-- A caller is let through no earlier than the interval after the latest release of its domain. -/
theorem ready_le_releaseTime {p : Pacer} {tick : Nat} (some : 0 < tick) {key : String} {previous : Nat}
    (last : p.last? key = .some previous) (now : Nat) : previous + p.interval ≤ p.releaseTime tick key now := by
  unfold releaseTime
  rw [last]
  dsimp only
  split
  · exact le_stopAt some _
  · omega

/-- Whoever is let through at some time would be let through at once at that time. -/
theorem releaseTime_releaseTime {p : Pacer} {tick : Nat} (some : 0 < tick) (key : String) (now : Nat) :
    p.releaseTime 1 key (p.releaseTime tick key now) = p.releaseTime tick key now := by
  cases last : p.last? key with
  | none => simp [releaseTime, last]
  | some previous =>
    have ready := ready_le_releaseTime some last now
    generalize p.releaseTime tick key now = time at ready ⊢
    simp [releaseTime, last, Nat.not_lt.mpr ready]

theorem wait_releaseTime {p : Pacer} {tick : Nat} (some : 0 < tick) (key : String) (now : Nat) :
    p.wait 1 key (p.releaseTime tick key now) = p.wait tick key now := by
  unfold wait
  rw [releaseTime_releaseTime some]

/-- The count of domains seen. -/
def domains (p : Pacer) : Nat := p.releases.length

/-- The domains seen, in the order of first requests. -/
def keys (p : Pacer) : List String := p.releases.map (·.1)

private theorem keys_setRelease (key : String) (time : Nat) (releases : List (String × Nat)) :
    (setRelease key time releases).map (·.1) =
      if key ∈ releases.map (·.1) then releases.map (·.1) else releases.map (·.1) ++ [key] := by
  induction releases with
  | nil => rfl
  | cons release rest ih =>
    obtain ⟨k, t⟩ := release
    by_cases here : k = key
    · subst here
      simp [setRelease]
    · have elsewhere : ¬ key = k := fun same => here same.symm
      simp only [setRelease, beq_iff_eq, here, if_false, List.map_cons, ih, List.mem_cons, elsewhere, false_or]
      split
      · rfl
      · rfl

/-- A domain is noted when its first caller is let through. -/
theorem keys_wait (p : Pacer) (tick : Nat) (key : String) (now : Nat) :
    (p.wait tick key now).2.keys = if key ∈ p.keys then p.keys else p.keys ++ [key] :=
  keys_setRelease key _ p.releases

theorem mem_keys {p : Pacer} {key : String} : key ∈ p.keys ↔ ∃ latest, p.last? key = some latest := by
  rw [← Option.isSome_iff_exists]
  simp [keys, last?]

/-- Lets a group of callers through that arrive together, in order. -/
def waitAll (p : Pacer) (tick : Nat) (now : Nat) : List String → List Nat × Pacer
  | [] => ([], p)
  | key :: rest =>
    let (time, p) := p.wait tick key now
    let (times, p) := p.waitAll tick now rest
    (time :: times, p)

/-- Callers that start together once some time has passed. -/
structure Group where
  delay : Nat
  keys : List String

/-- The releases of groups of callers, each group starting when the one before is through. -/
def schedule (p : Pacer) (tick : Nat) (now : Nat) : List Group → List Nat × Pacer
  | [] => ([], p)
  | group :: rest =>
    let start := now + group.delay
    let (times, p) := p.waitAll tick start group.keys
    let (later, p) := p.schedule tick (times.foldl max start) rest
    (times ++ later, p)

end Pacer

end Harvest.Web
