import Harvest.Web.Line
import Mathlib.Data.Finset.Card
import Mathlib.Order.Bounds.Basic

/-!
Turns one after the other. The calls for one domain are let through in the order in which they come: the first
on arrival, and each later one as soon as the clock can stop that is neither before its arrival nor before the
last release and the interval. Among calls for many domains, those for each are let through as if there were
no others.
-/

namespace Harvest.Web

theorem Call.of_append (key : String) (calls further : List Call) :
    of key (calls ++ further) = of key calls ++ of key further := List.filter_append _ _

namespace Pacer

theorem stopAt_isLeast {tick : Nat} (ticks : 0 < tick) (time : Nat) :
    IsLeast {stop | tick ∣ stop ∧ time ≤ stop} (stopAt tick time) := by
  refine ⟨⟨Nat.dvd_mul_left _ _, le_stopAt ticks time⟩, ?_⟩
  rintro stop ⟨⟨count, rfl⟩, late⟩
  have few : (time + tick - 1) / tick < count + 1 := by
    refine Nat.div_lt_of_lt_mul ?_
    rw [Nat.mul_succ]
    omega
  rw [stopAt, Nat.mul_comm tick count]
  exact Nat.mul_le_mul_right tick (Nat.le_of_lt_succ few)

theorem stopAt_of_dvd {tick time : Nat} (ticks : 0 < tick) (whole : tick ∣ time) : stopAt tick time = time :=
  Nat.le_antisymm ((stopAt_isLeast ticks time).2 ⟨whole, Nat.le_refl time⟩) (le_stopAt ticks time)

/-- The clock does not stop between two ticks. -/
theorem stopAt_of_between {tick n time : Nat} (ticks : 0 < tick) (beyond : n * tick < time)
    (within : time ≤ (n + 1) * tick) : stopAt tick time = (n + 1) * tick := by
  obtain ⟨⟨⟨count, stops⟩, late⟩, least⟩ := stopAt_isLeast ticks time
  refine Nat.le_antisymm (least ⟨Nat.dvd_mul_left _ _, within⟩) ?_
  rw [stops, Nat.mul_comm tick count] at late ⊢
  exact Nat.mul_le_mul_right tick (Nat.lt_of_mul_lt_mul_right (Nat.lt_of_lt_of_le beyond late))

end Pacer

/-! ### One domain -/

/-- When a call is let through, given when the one before it was. -/
def turn (tick interval : Nat) (latest : Option Nat) (arrival : Nat) : Nat :=
  match latest with
  | none => arrival
  | some previous => if arrival < previous + interval then Pacer.stopAt tick (previous + interval) else arrival

/-- The releases of calls for one domain, given the one before them. -/
def turns (tick interval : Nat) (latest : Option Nat) : List Call → List Release
  | [] => []
  | call :: rest =>
    let time := turn tick interval latest call.arrival
    ⟨call, time⟩ :: turns tick interval (some time) rest

/-- The first is released on arrival, and each later one at the first time that is neither before its arrival
nor before the last release and the interval. The clock stops at whole ticks and when a call comes. -/
structure InTurn (tick interval : Nat) (releases : List Release) : Prop where
  first : ∀ release, releases.head? = some release → release.time = release.call.arrival
  next : releases.IsChain fun previous release =>
    IsLeast {time | (tick ∣ time ∨ time = release.call.arrival) ∧ release.call.arrival ≤ time ∧
      previous.time + interval ≤ time} release.time
  apart : releases.Pairwise fun previous release => previous.time + interval ≤ release.time

section
variable {tick interval : Nat}

theorem turn_isLeast (ticks : 0 < tick) (previous arrival : Nat) :
    IsLeast {time | (tick ∣ time ∨ time = arrival) ∧ arrival ≤ time ∧ previous + interval ≤ time}
      (turn tick interval (some previous) arrival) := by
  obtain ⟨⟨stops, ready⟩, least⟩ := Pacer.stopAt_isLeast ticks (previous + interval)
  unfold turn
  dsimp only
  split
  next early =>
    refine ⟨⟨Or.inl stops, by omega, ready⟩, ?_⟩
    rintro time ⟨whole | rfl, -, late⟩
    · exact least ⟨whole, late⟩
    · omega
  next late =>
    exact ⟨⟨Or.inr rfl, Nat.le_refl _, by omega⟩, fun time after => after.2.1⟩

/-- A call is let through on arrival if the interval has passed. -/
theorem turn_eq_self_iff (ticks : 0 < tick) {latest : Option Nat} {now : Nat} :
    turn tick interval latest now = now ↔
      ∀ previous, latest = some previous → previous + interval ≤ now := by
  constructor
  · rintro same previous rfl
    rw [← same]
    exact (turn_isLeast ticks previous now).1.2.2
  · intro ready
    cases latest with
    | none => rfl
    | some previous => exact if_neg (Nat.not_lt.mpr (ready previous rfl))

theorem le_turns (ticks : 0 < tick) {previous : Nat} {calls : List Call} {release : Release}
    (member : release ∈ turns tick interval (some previous) calls) : previous + interval ≤ release.time := by
  induction calls generalizing previous with
  | nil => cases member
  | cons call rest ih =>
    have ready : previous + interval ≤ turn tick interval (some previous) call.arrival :=
      (turn_isLeast ticks previous call.arrival).1.2.2
    rcases List.mem_cons.mp member with rfl | later
    · exact ready
    · have after := ih later
      omega

theorem turns_call (tick interval : Nat) (latest : Option Nat) (calls : List Call) :
    (turns tick interval latest calls).map (·.call) = calls := by
  induction calls generalizing latest with
  | nil => rfl
  | cons call rest ih => exact congrArg (call :: ·) (ih _)

theorem turns_extend (tick interval : Nat) (latest : Option Nat) (calls further : List Call) :
    turns tick interval latest calls <+: turns tick interval latest (calls ++ further) := by
  induction calls generalizing latest with
  | nil => exact List.nil_prefix
  | cons call rest ih => exact List.prefix_cons_inj _ |>.mpr (ih _)

theorem turns_inTurn (ticks : 0 < tick) (calls : List Call) :
    InTurn tick interval (turns tick interval none calls) where
  first := by
    cases calls with
    | nil => nofun
    | cons call rest =>
      rintro _ ⟨⟩
      rfl
  next := by
    suffices chain : ∀ latest, (turns tick interval latest calls).IsChain _ from chain none
    induction calls with
    | nil => exact fun _ => .nil
    | cons call rest ih =>
      intro latest
      cases rest with
      | nil => exact .singleton _
      | cons later rest => exact .cons_cons (turn_isLeast ticks _ later.arrival) (ih _)
  apart := by
    suffices pairs : ∀ latest, (turns tick interval latest calls).Pairwise _ from pairs none
    induction calls with
    | nil => exact fun _ => .nil
    | cons call rest ih => exact fun latest => .cons (fun release member => le_turns ticks member) (ih _)

/-- Three a second, on a clock that stops at whole milliseconds. -/
example : (turns 1000000 333333333 none [⟨"/a", 0⟩, ⟨"/b", 0⟩, ⟨"/c", 0⟩]).map (·.time) =
    [0, 334000000, 668000000] := by decide

end

/-! ### One after the other -/

namespace Pacer

variable {tick : Nat}

/-- Lets callers through one after the other. -/
def pass (p : Pacer) (tick : Nat) : List Call → List Release × Pacer
  | [] => ([], p)
  | call :: rest =>
    let (time, p) := p.wait tick call.key call.arrival
    let (releases, p) := p.pass tick rest
    (⟨call, time⟩ :: releases, p)

theorem releaseTime_eq (p : Pacer) (tick : Nat) (key : String) (now : Nat) :
    p.releaseTime tick key now = turn tick p.interval (p.last? key) now := by
  unfold releaseTime turn
  cases p.last? key with
  | none => rfl
  | some latest => rfl

theorem pass_call (p : Pacer) (calls : List Call) : (p.pass tick calls).1.map (·.call) = calls := by
  induction calls generalizing p with
  | nil => rfl
  | cons call rest ih => exact congrArg (call :: ·) (ih _)

theorem pass_append (p : Pacer) (calls further : List Call) :
    p.pass tick (calls ++ further) =
      ((p.pass tick calls).1 ++ ((p.pass tick calls).2.pass tick further).1,
        ((p.pass tick calls).2.pass tick further).2) := by
  induction calls generalizing p with
  | nil => rfl
  | cons call rest ih => simp only [List.cons_append, pass, ih]

/-- A domain's releases are those of its own calls. -/
theorem pass_of (p : Pacer) (key : String) (calls : List Call) :
    Release.of key (p.pass tick calls).1 = turns tick p.interval (p.last? key) (Call.of key calls) := by
  induction calls generalizing p with
  | nil => rfl
  | cons call rest ih =>
    have later : Release.of key ((p.wait tick call.key call.arrival).2.pass tick rest).1 =
        turns tick p.interval _ (Call.of key rest) := ih (p.wait tick call.key call.arrival).2
    rw [last?_wait] at later
    by_cases own : call.key = key
    · subst own
      rw [if_pos (beq_self_eq_true _), releaseTime_eq] at later
      simp only [pass, Release.of, Call.of, List.filter_cons, beq_self_eq_true, if_true, turns]
      rw [wait, releaseTime_eq]
      exact congrArg _ later
    · simpa [pass, Release.of, Call.of, own] using later

/-- The domains seen are those of these keys. -/
structure Tracks (p : Pacer) (keys : List String) : Prop where
  nodup : p.keys.Nodup
  seen : ∀ key, key ∈ p.keys ↔ key ∈ keys

theorem Tracks.domains {p : Pacer} {keys : List String} (tracks : p.Tracks keys) :
    p.domains = keys.toFinset.card := by
  have same : p.keys.toFinset = keys.toFinset := by
    ext key
    rw [List.mem_toFinset, List.mem_toFinset]
    exact tracks.seen key
  rw [← same, List.toFinset_card_of_nodup tracks.nodup]
  exact (List.length_map _).symm

theorem nodup_wait {p : Pacer} (nodup : p.keys.Nodup) (key : String) (now : Nat) :
    (p.wait tick key now).2.keys.Nodup := by
  rw [keys_wait]
  split
  · exact nodup
  next fresh => exact nodup.append (List.nodup_singleton key) (by simpa using fresh)

theorem Tracks.wait {p : Pacer} {keys : List String} (tracks : p.Tracks keys) (key : String) (now : Nat) :
    (p.wait tick key now).2.Tracks (keys ++ [key]) := by
  refine ⟨nodup_wait tracks.nodup key now, fun other => ?_⟩
  have seen : other ∈ p.keys ∨ other = key ↔ other ∈ keys ++ [key] := by simp [tracks.seen]
  rw [keys_wait, ← seen]
  split
  next known => exact ⟨Or.inl, fun either => either.elim id fun same => same ▸ known⟩
  · simp

theorem Tracks.pass {p : Pacer} {keys : List String} (tracks : p.Tracks keys) (calls : List Call) :
    (p.pass tick calls).2.Tracks (keys ++ calls.map (·.key)) := by
  induction calls generalizing p keys with
  | nil => simpa [Pacer.pass] using tracks
  | cons call rest ih => simpa [Pacer.pass] using ih (tracks.wait call.key call.arrival)

theorem tracks_new (interval : Nat) : (new interval).Tracks [] := ⟨.nil, fun _ => Iff.rfl⟩

/-! ### Groups -/

/-- The calls of groups of URLs, each group starting some time after the one before is through. -/
def started (p : Pacer) (tick now : Nat) : List (Nat × List String) → List Call
  | [] => []
  | (delay, urls) :: rest =>
    let start := now + delay
    let (times, p) := p.waitAll tick start (urls.map Url.domainKey)
    urls.map (Call.mk · start) ++ p.started tick (times.foldl max start) rest

theorem waitAll_eq (p : Pacer) (now : Nat) (urls : List String) :
    p.waitAll tick now (urls.map Url.domainKey) =
      ((p.pass tick (urls.map (Call.mk · now))).1.map (·.time),
        (p.pass tick (urls.map (Call.mk · now))).2) := by
  induction urls generalizing p with
  | nil => rfl
  | cons url rest ih => simp only [List.map_cons, waitAll, pass, Call.key, ih]

theorem schedule_eq (p : Pacer) (now : Nat) (groups : List (Nat × List String)) :
    p.schedule tick now (groups.map fun group => ⟨group.1, group.2.map Url.domainKey⟩) =
      ((p.pass tick (p.started tick now groups)).1.map (·.time),
        (p.pass tick (p.started tick now groups)).2) := by
  induction groups generalizing p now with
  | nil => rfl
  | cons group rest ih =>
    simp only [List.map_cons, schedule, started, waitAll_eq, ih, pass_append, List.map_append]

end Pacer

end Harvest.Web
