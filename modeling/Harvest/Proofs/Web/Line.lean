import Harvest.Proofs.Web.Turn
import Mathlib.Data.Finset.Order

/-!
Turns by domain. A line holds for each domain what the calls for that domain alone would leave, so that calls
that come while others wait are let through just as those that come one after the other.
-/

namespace Harvest.Web

/-! ### One domain -/

/-- What a line holds of one domain. -/
structure Slot where
  latest : Option Nat
  waiting : List Call
  released : List Release

namespace Slot

def new : Slot := ⟨none, [], []⟩

/-- Lets a call through, unless another one waits or the interval has not passed. -/
def attend (interval time : Nat) (slot : Slot) (call : Call) : Slot :=
  if slot.waiting.isEmpty && turn 1 interval slot.latest time == time then
    { slot with latest := some time, released := slot.released ++ [⟨call, time⟩] }
  else { slot with waiting := slot.waiting ++ [call] }

/-- The slot when the clock stops at some time, and these calls come. -/
def stop (slot : Slot) (interval time : Nat) (calls : List Call) : Slot :=
  (slot.waiting ++ calls).foldl (attend interval time) { slot with waiting := [] }

/-- A slot for which these calls have come, and those of a queue are still to be tried at this time. However
the calls go on, they will be released in turn; whoever waits is early, and whoever is tried first is not
late. -/
structure Keeps (tick interval time : Nat) (came queue : List Call) (slot : Slot) : Prop where
  noted : slot.latest = slot.released.getLast?.map (·.time)
  course : ∀ further, turns tick interval none (came ++ further) =
    slot.released ++ turns tick interval slot.latest (slot.waiting ++ queue ++ further)
  past : ∀ release ∈ slot.released, release.time ≤ time
  arrived : ∀ call ∈ slot.waiting ++ queue, call.arrival ≤ time
  blocked : slot.waiting ≠ [] → ∃ latest, slot.latest = some latest ∧ time < latest + interval
  prompt : slot.waiting = [] → ∀ call, queue.head? = some call →
    (∀ latest, slot.latest = some latest → latest + interval ≤ time) →
    turn tick interval slot.latest call.arrival = time

variable {tick interval time : Nat} {came queue : List Call} {call : Call} {slot : Slot}

theorem keeps_new {calls : List Call} (come : ∀ call ∈ calls, call.arrival = 0) :
    new.Keeps tick interval 0 calls calls where
  noted := rfl
  course _ := rfl
  past := nofun
  arrived call member := Nat.le_of_eq (come call member)
  blocked taken := (taken rfl).elim
  prompt _ call first _ := come call (List.mem_of_head? first)

theorem Keeps.attend (ticks : 0 < tick) (whole : tick ∣ time)
    (keeps : slot.Keeps tick interval time came (call :: queue)) :
    (slot.attend interval time call).Keeps tick interval time came queue := by
  obtain ⟨noted, course, past, arrived, blocked, prompt⟩ := keeps
  have along : slot.waiting ++ call :: queue = slot.waiting ++ [call] ++ queue := by simp
  unfold Slot.attend
  split
  next through =>
    simp only [Bool.and_eq_true, List.isEmpty_iff, beq_iff_eq, turn_eq_self_iff Nat.one_pos] at through
    obtain ⟨free, ready⟩ := through
    have now := prompt free call rfl ready
    refine ⟨by simp, fun further => ?_, ?_, ?_, fun taken => (taken free).elim, ?_⟩
    · rw [course, free]
      simp [turns, now]
    · exact List.forall_mem_append.mpr ⟨past, List.forall_mem_singleton.mpr (Nat.le_refl _)⟩
    · exact fun other member => arrived other (by simp_all)
    · -- Only with an interval of nothing is another call let through at the same time.
      intro _ other first again
      have early := arrived other (by simp [List.mem_of_head? first])
      have none : interval = 0 := by
        have := again time rfl
        omega
      subst none
      dsimp only [turn]
      split
      · exact Pacer.stopAt_of_dvd ticks whole
      · omega
  next kept =>
    refine ⟨noted, fun further => ?_, past, ?_, fun _ => ?_, fun none => by simp at none⟩
    · rw [course, along]
    · rw [← along]
      exact arrived
    · by_cases free : slot.waiting = []
      · simp only [free, List.isEmpty_nil, Bool.true_and, beq_iff_eq, turn_eq_self_iff Nat.one_pos] at kept
        push Not at kept
        exact kept
      · exact blocked free

theorem Keeps.attendAll (ticks : 0 < tick) (whole : tick ∣ time)
    (keeps : slot.Keeps tick interval time came queue) :
    (queue.foldl (Slot.attend interval time) slot).Keeps tick interval time came [] := by
  induction queue generalizing slot with
  | nil => exact keeps
  | cons call rest ih => exact ih (keeps.attend ticks whole)

/-- At the next tick, a call that waits comes to its turn as soon as the interval has passed. -/
theorem Keeps.stop (ticks : 0 < tick) {n : Nat} (keeps : slot.Keeps tick interval (n * tick) came [])
    {calls : List Call} (come : ∀ call ∈ calls, call.arrival = (n + 1) * tick) :
    (slot.stop interval ((n + 1) * tick) calls).Keeps tick interval ((n + 1) * tick) (came ++ calls) [] := by
  obtain ⟨noted, course, past, arrived, blocked, -⟩ := keeps
  have onward : n * tick < (n + 1) * tick := Nat.mul_lt_mul_of_pos_right (Nat.lt_succ_self n) ticks
  have whole : tick ∣ (n + 1) * tick := Nat.dvd_mul_left _ _
  refine Keeps.attendAll ticks whole ⟨noted, fun further => ?_, fun release member => ?_, ?_, nofun, ?_⟩
  · rw [List.append_assoc, course]
    simp
  · exact Nat.le_trans (past release member) (Nat.le_of_lt onward)
  · intro call member
    rw [List.nil_append] at member
    rcases List.mem_append.mp member with waits | new
    · exact Nat.le_trans (arrived call (List.mem_append_left _ waits)) (Nat.le_of_lt onward)
    · exact Nat.le_of_eq (come call new)
  · intro _ call first ready
    cases waits : slot.waiting with
    | nil =>
      rw [waits] at first
      rw [come call (List.mem_of_head? first)]
      exact (turn_eq_self_iff ticks).mpr ready
    | cons head rest =>
      rw [waits] at first
      cases first
      obtain ⟨latest, last, early⟩ := blocked (by simp [waits])
      have before := arrived call (by simp [waits])
      have due : turn tick interval (some latest) call.arrival = Pacer.stopAt tick (latest + interval) :=
        if_pos (Nat.lt_of_le_of_lt before early)
      dsimp only
      rw [last, due]
      exact Pacer.stopAt_of_between ticks early (ready latest last)

theorem Keeps.turns_eq (keeps : slot.Keeps tick interval time came []) :
    turns tick interval none came = slot.released ++ turns tick interval slot.latest slot.waiting := by
  simpa using keeps.course []

/-- The calls whose time has come are let through, and the others wait. -/
theorem Keeps.released (ticks : 0 < tick) (keeps : slot.Keeps tick interval time came []) :
    slot.released = (turns tick interval none came).filter (·.time ≤ time) ∧
      slot.waiting = ((turns tick interval none came).filter (time < ·.time)).map (·.call) := by
  have future (release : Release) (member : release ∈ turns tick interval slot.latest slot.waiting) :
      time < release.time := by
    obtain ⟨latest, last, early⟩ := keeps.blocked (by rintro none; simp [none, turns] at member)
    rw [last] at member
    exact Nat.lt_of_lt_of_le early (le_turns ticks member)
  rw [keeps.turns_eq, List.filter_append, List.filter_append]
  constructor
  · rw [List.filter_eq_self.mpr (by simpa using keeps.past), List.filter_eq_nil_iff.mpr (by simpa using future),
      List.append_nil]
  · rw [List.filter_eq_nil_iff.mpr (by simpa using keeps.past), List.filter_eq_self.mpr (by simpa using future),
      List.nil_append, turns_call]

/-- A slot has been used as soon as a call has come. -/
theorem Keeps.latest_eq_none_iff (keeps : slot.Keeps tick interval time came []) :
    slot.latest = none ↔ came = [] := by
  constructor
  · intro unused
    have free : slot.waiting = [] := by
      by_contra taken
      obtain ⟨latest, last, -⟩ := keeps.blocked taken
      exact absurd (unused.symm.trans last) nofun
    have fresh : slot.released = [] := by simpa [keeps.noted] using unused
    rw [← turns_call tick interval none came, keeps.turns_eq, fresh, free]
    rfl
  · rintro rfl
    rw [keeps.noted, (List.append_eq_nil_iff.mp keeps.turns_eq.symm).1]
    rfl

end Slot

/-! ### All domains -/

namespace Line

variable {tick interval time : Nat}

def slot (line : Line) (key : String) : Slot :=
  ⟨line.pacer.last? key, Call.of key line.waiting, Release.of key line.released⟩

/-- A call is tried at its own domain, and makes no difference to another one. -/
theorem slot_attend (line : Line) (call : Call) (key : String) :
    (line.attend time call).slot key =
      if call.key = key then (line.slot key).attend line.pacer.interval time call else line.slot key := by
  by_cases own : call.key = key
  · subst own
    have same : line.pacer.releaseTime 1 call.key time =
        turn 1 line.pacer.interval (line.slot call.key).latest time := Pacer.releaseTime_eq _ _ _ _
    have alike : ((Call.of call.key line.waiting).isEmpty && line.pacer.releaseTime 1 call.key time == time) =
        ((line.slot call.key).waiting.isEmpty &&
          turn 1 line.pacer.interval (line.slot call.key).latest time == time) := by
      rw [same]
      rfl
    rw [if_pos rfl, Line.attend, Slot.attend, alike]
    split
    next through =>
      have now := same.trans (eq_of_beq (Bool.and_eq_true_iff.mp through).2)
      simp [slot, Pacer.last?_wait, now, Release.of]
    · simp [slot, Call.of]
  · rw [if_neg own, Line.attend]
    split
    · simp [slot, Pacer.last?_wait, own, Release.of]
    · simp [slot, own, Call.of]

theorem interval_attend (line : Line) (call : Call) :
    (line.attend time call).pacer.interval = line.pacer.interval := by
  unfold attend
  split <;> rfl

theorem nodup_attend {line : Line} (nodup : line.pacer.keys.Nodup) (call : Call) :
    (line.attend time call).pacer.keys.Nodup := by
  unfold attend
  split
  · exact Pacer.nodup_wait nodup call.key time
  · exact nodup

theorem attendAll (line : Line) (time : Nat) (calls : List Call) :
    (calls.foldl (attend time) line).pacer.interval = line.pacer.interval ∧
    (line.pacer.keys.Nodup → (calls.foldl (attend time) line).pacer.keys.Nodup) ∧
    ∀ key, (calls.foldl (attend time) line).slot key =
      (Call.of key calls).foldl (Slot.attend line.pacer.interval time) (line.slot key) := by
  induction calls generalizing line with
  | nil => exact ⟨rfl, id, fun _ => rfl⟩
  | cons call rest ih =>
    obtain ⟨pace, nodup, slots⟩ := ih (line.attend time call)
    refine ⟨pace.trans (line.interval_attend call), fun once => nodup (nodup_attend once call), fun key => ?_⟩
    rw [List.foldl_cons, slots, slot_attend, interval_attend]
    by_cases own : call.key = key <;> simp [Call.of, own]

theorem stop_spec (line : Line) (time : Nat) (urls : List String) :
    (line.stop time urls).pacer.interval = line.pacer.interval ∧
    (line.pacer.keys.Nodup → (line.stop time urls).pacer.keys.Nodup) ∧
    ∀ key, (line.stop time urls).slot key =
      (line.slot key).stop line.pacer.interval time (Call.of key (urls.map (Call.mk · time))) := by
  obtain ⟨pace, nodup, slots⟩ :=
    attendAll { line with waiting := [] } time (line.waiting ++ urls.map (Call.mk · time))
  refine ⟨pace, nodup, fun key => ?_⟩
  rw [stop, slots]
  simp [slot, Slot.stop, Call.of]

theorem after_keeps (interval : Nat) (ticks : 0 < tick) (urls : Nat → List String) (n : Nat) :
    (after interval tick urls n).pacer.interval = interval ∧
    (after interval tick urls n).pacer.keys.Nodup ∧
    ∀ key, ((after interval tick urls n).slot key).Keeps tick interval (n * tick)
      (Call.of key (calls tick urls n)) [] := by
  have arrive (key : String) (time : Nat) (urls : List String) :
      ∀ call ∈ Call.of key (urls.map (Call.mk · time)), call.arrival = time := by
    intro call member
    obtain ⟨url, -, rfl⟩ := List.mem_map.mp (List.mem_of_mem_filter member)
    rfl
  induction n with
  | zero =>
    obtain ⟨pace, nodup, slots⟩ := (new interval).stop_spec 0 (urls 0)
    refine ⟨pace, nodup .nil, fun key => ?_⟩
    rw [after, slots, Nat.zero_mul]
    exact (Slot.keeps_new (arrive key 0 _)).attendAll ticks (Nat.dvd_zero _)
  | succ n ih =>
    obtain ⟨pace, nodup, keeps⟩ := ih
    obtain ⟨same, once, slots⟩ := (after interval tick urls n).stop_spec ((n + 1) * tick) (urls (n + 1))
    refine ⟨same.trans pace, once nodup, fun key => ?_⟩
    rw [after, slots, pace, calls, Call.of_append]
    exact (keeps key).stop ticks (arrive key _ _)

theorem after_tracks (ticks : 0 < tick) (urls : Nat → List String) (n : Nat) :
    (after interval tick urls n).pacer.Tracks ((calls tick urls n).map (·.key)) := by
  obtain ⟨-, nodup, keeps⟩ := after_keeps interval ticks urls n
  refine ⟨nodup, fun key => ?_⟩
  have unseen := (keeps key).latest_eq_none_iff
  rw [Pacer.mem_keys, ← Option.ne_none_iff_exists']
  refine (not_congr unseen).trans ?_
  simp [Call.of]

theorem calls_extend (tick : Nat) (urls : Nat → List String) (n later : Nat) :
    calls tick urls n <+: calls tick urls (n + later) := by
  induction later with
  | zero => exact List.prefix_rfl
  | succ later ih => exact ih.trans (List.prefix_append _ _)

/-- All calls that have come are let through sometime. -/
theorem released_sometime (ticks : 0 < tick) (urls : Nat → List String) (n : Nat) (key : String) :
    ∃ later, turns tick interval none (Call.of key (calls tick urls n)) <+:
      Release.of key (after interval tick urls later).released := by
  obtain ⟨bound, within⟩ :=
    ((turns tick interval none (Call.of key (calls tick urls n))).map (·.time)).toFinset.exists_le
  obtain ⟨-, -, keeps⟩ := after_keeps interval ticks urls (n + bound)
  obtain ⟨more, onward⟩ := calls_extend tick urls n bound
  have soon (release : Release) (member : release ∈ turns tick interval none (Call.of key (calls tick urls n))) :
      release.time ≤ (n + bound) * tick :=
    calc release.time ≤ bound := within _ (List.mem_toFinset.mpr (List.mem_map_of_mem member))
      _ ≤ n + bound := Nat.le_add_left _ _
      _ ≤ (n + bound) * tick := Nat.le_mul_of_pos_right _ ticks
  have grown := (turns_extend tick interval none (Call.of key (calls tick urls n))
    (Call.of key more)).filter (·.time ≤ (n + bound) * tick)
  refine ⟨n + bound, ?_⟩
  obtain ⟨released, -⟩ := (keeps key).released ticks
  rw [← onward, Call.of_append] at released
  change _ <+: ((after interval tick urls (n + bound)).slot key).released
  rw [released]
  rwa [List.filter_eq_self.mpr (by simpa using soon)] at grown

end Line

/-- The calls for one domain are let through in turn. When they are depends on nothing but their arrivals,
whether groups of calls come one after the other or calls come while others wait. -/
theorem turns_by_domain (interval : Nat) {tick : Nat} (ticks : 0 < tick) :
    (∀ calls, (turns tick interval none calls).map (·.call) = calls ∧
      InTurn tick interval (turns tick interval none calls)) ∧
    (∀ (now : Nat) (groups : List (Nat × List String)),
      let calls := (Pacer.new interval).started tick now groups
      let ended := (Pacer.new interval).schedule tick now
        (groups.map fun group => ⟨group.1, group.2.map Url.domainKey⟩)
      (∃ releases, releases.map (·.call) = calls ∧ releases.map (·.time) = ended.1 ∧
        ∀ key, Release.of key releases = turns tick interval none (Call.of key calls)) ∧
      ended.2.domains = (calls.map (·.key)).toFinset.card) ∧
    (∀ (urls : Nat → List String) (n : Nat),
      let calls := Line.calls tick urls n
      let line := Line.after interval tick urls n
      (∀ key, let due := turns tick interval none (Call.of key calls)
        Release.of key line.released = due.filter (·.time ≤ n * tick) ∧
        Call.of key line.waiting = (due.filter (n * tick < ·.time)).map (·.call) ∧
        ∃ later, due <+: Release.of key (Line.after interval tick urls later).released) ∧
      line.pacer.domains = (calls.map (·.key)).toFinset.card) ∧
    ∀ url, (∀ parsed, Url.parse url = .ok parsed → parsed.hostText? = none) →
      Url.domainKey url = Url.unknownDomain := by
  refine ⟨fun calls => ⟨turns_call tick interval none calls, turns_inTurn ticks calls⟩, fun now groups => ?_,
    fun urls n => ⟨fun key => ?_, (Line.after_tracks ticks urls n).domains⟩, fun url hostless => ?_⟩
  · intro calls ended
    have passed : ended = _ := Pacer.schedule_eq _ _ _
    rw [passed]
    exact ⟨⟨_, Pacer.pass_call _ calls, rfl, fun key => Pacer.pass_of _ key calls⟩,
      ((Pacer.tracks_new interval).pass calls).domains⟩
  · obtain ⟨released, waiting⟩ := ((Line.after_keeps interval ticks urls n).2.2 key).released ticks
    exact ⟨released, waiting, Line.released_sometime ticks urls n key⟩
  · unfold Url.domainKey
    split
    next parsed read =>
      rw [Url.domain?, hostless parsed read]
      rfl
    · rfl

/-- Two calls come together with one that names no host, and two more while the second one waits. -/
def lateCalls : Nat → List String
  | 0 => ["https://news.example/a", "https://news.example/b", "not a url"]
  | 1 => ["https://News.Example/c", "mailto:someone@news.example"]
  | _ => []

theorem turns_by_domain_late : 0 < 1000000 ∧
    Release.of "news.example" (Line.after 2500000 1000000 lateCalls 4).released =
      [⟨⟨"https://news.example/a", 0⟩, 0⟩, ⟨⟨"https://news.example/b", 0⟩, 3000000⟩] ∧
    Call.of "news.example" (Line.after 2500000 1000000 lateCalls 4).waiting =
      [⟨"https://News.Example/c", 1000000⟩] ∧
    (Line.after 2500000 1000000 lateCalls 4).pacer.domains = 2 ∧
    Url.domainKey "mailto:someone@news.example" = Url.unknownDomain := by
  obtain ⟨-, -, inLine, hostless⟩ := @turns_by_domain 2500000 1000000 (by decide)
  obtain ⟨slots, domains⟩ := inLine lateCalls 4
  obtain ⟨released, waiting, -⟩ := slots "news.example"
  refine ⟨by decide, released.trans (by decide +kernel), waiting.trans (by decide +kernel),
    domains.trans (by decide +kernel), hostless _ fun parsed read => ?_⟩
  have none : (Url.parse "mailto:someone@news.example").toOption.map (·.hostText?) = some none := by
    decide +kernel
  rw [read] at none
  exact Option.some.inj none

end Harvest.Web
