import Harvest.Proofs.Web.Activity
import Harvest.Proofs.Web.Session
import Harvest.Web.Traffic

/-!
Pacing of traffic. Activities that ask the web only by fetching make their requests to one domain an interval
apart, in whatever company they are and whatever happens to them. What one request sends by way of redirects
goes out together with it.
-/

namespace Harvest.Web

/-- A request is sent at most so often, each time at once, and at first to the URL that it is for. -/
structure Attempt.IsProper (attempt : Attempt) : Prop where
  few : attempt.sent.length ≤ Script.maxRequests
  together : ∀ arrival ∈ attempt.sent, arrival.uptime = attempt.uptime
  first : ∀ arrival, attempt.sent.head? = some arrival → arrival.url = attempt.request.url

/-- The key under which a request is paced. -/
def Request.key (request : Request) : String := request.url.domain?.getD Url.unknownDomain

theorem Request.make_key {url userAgent : String} {timeout : Nat} {request : Request}
    (made : Request.make url userAgent timeout = .ok request) : request.key = Url.domainKey url := by
  unfold Request.make at made
  unfold Url.domainKey
  split at made
  · cases made
  next parsed =>
    split at made
    · cases made
    split at made
    · cases made
    split at made
    · cases made
    cases made
    rw [parsed]
    rfl

theorem Script.sendFrom_arrivals (userAgent : String) (web : Script) (uptime : Nat) (url : Url) (left : Nat) :
    ∃ sent, (sendFrom userAgent web uptime url left).web.arrivals = web.arrivals ++ sent ∧ sent.length ≤ left ∧
      (∀ arrival ∈ sent, arrival.uptime = uptime) ∧ ∀ arrival, sent.head? = some arrival → arrival.url = url := by
  induction left generalizing web url with
  | zero => exact ⟨[], (List.append_nil _).symm, Nat.le_refl _, List.forall_mem_nil _, by rintro _ ⟨⟩⟩
  | succ left ih =>
    -- A request that is sent is noted first, and then the redirect is followed, if any.
    have noted (sent : List Arrival) (few : sent.length ≤ left) (together : ∀ a ∈ sent, a.uptime = uptime) :
        (⟨uptime, url, userAgent⟩ :: sent : List Arrival).length ≤ left + 1 ∧
        (∀ a ∈ (⟨uptime, url, userAgent⟩ :: sent : List Arrival), a.uptime = uptime) ∧
        ∀ a, (⟨uptime, url, userAgent⟩ :: sent : List Arrival).head? = some a → a.url = url :=
      ⟨Nat.succ_le_succ few, List.forall_mem_cons.mpr ⟨rfl, together⟩, by rintro a ⟨⟩; rfl⟩
    have alone := noted [] (Nat.zero_le _) (List.forall_mem_nil _)
    rw [sendFrom]
    split
    · exact ⟨[], (List.append_nil _).symm, Nat.zero_le _, List.forall_mem_nil _, by rintro _ ⟨⟩⟩
    dsimp only
    split
    · split
      next target _ =>
        obtain ⟨sent, arrivals, few, together, -⟩ := ih (web.noting ⟨uptime, url, userAgent⟩) target
        refine ⟨⟨uptime, url, userAgent⟩ :: sent, ?_, noted sent few together⟩
        rw [arrivals]
        exact List.append_assoc _ _ _
      · exact ⟨_, rfl, alone⟩
    · exact ⟨_, rfl, alone⟩

namespace Activity

variable {σ α β : Type}

/-- An activity that asks the web only by fetching. -/
inductive FetchesOnly : Activity σ α → Prop where
  | done (a : α) : FetchesOnly (.done a)
  | step {write : Clocks → σ → σ} {next : Clocks → σ → Activity σ α}
      (onward : ∀ clocks state, FetchesOnly (next clocks state)) : FetchesOnly (.step write next)
  | fetch (f : Fetching) (url : String) {next : Option (Except FetchError Fetched) → Activity σ α}
      (onward : ∀ fetched, FetchesOnly (next fetched)) : FetchesOnly ((f.fetch url).bind next)
  | crash : FetchesOnly .crash

theorem FetchesOnly.bind {activity : Activity σ α} (only : activity.FetchesOnly) {next : α → Activity σ β}
    (onward : ∀ a, (next a).FetchesOnly) : (activity.bind next).FetchesOnly := by
  induction only with
  | done a => exact onward a
  | step _ ih => exact .step ih
  | fetch f url _ ih =>
    rw [bind_assoc]
    exact .fetch f url ih
  | crash => exact .crash

private theorem bind_done (activity : Activity σ α) : activity.bind .done = activity := by
  induction activity with
  | done a => rfl
  | step write go ih => exact congrArg (step write) (funext fun clocks => funext (ih clocks))
  | await deadline wait go ih => exact congrArg (await deadline wait) (funext ih)
  | crash => rfl

theorem FetchesOnly.of_fetch (f : Fetching) (url : String) :
    (f.fetch url : Activity σ (Option (Except FetchError Fetched))).FetchesOnly := by
  rw [← bind_done (f.fetch url)]
  exact .fetch f url .done

/-! ### Turns -/

/-- The activity asks for a reply only in the turn that it was given last, and under the key of that
turn. -/
def Paced : Activity σ α → Option String → Prop
  | done _, _ => True
  | step _ next, held => ∀ clocks state, (next clocks state).Paced held
  | await _ (.turn key) next, _ => (next none).Paced none ∧ ∀ turn, (next (some turn)).Paced (some key)
  | await _ (.pause _) next, _ => ∀ answer, (next answer).Paced none
  | await _ (.reply request) next, held => held = some request.key ∧ ∀ answer, (next answer).Paced none
  | crash, _ => True

/-- An activity between its turns: it was given no turn that it has not used. -/
def Underway : Activity σ α → Prop
  | await _ (.reply _) next => ∀ answer, (next answer).Paced none
  | activity => activity.Paced none

theorem Paced.weaken {activity : Activity σ α} (paced : activity.Paced none) (held : Option String) :
    activity.Paced held := by
  induction activity with
  | done a => trivial
  | step write go ih => exact fun clocks state => ih clocks state (paced clocks state)
  | await deadline wait go =>
    cases wait with
    | turn | pause => exact paced
    | reply request => cases paced.1
  | crash => trivial

theorem Paced.bind {activity : Activity σ α} {held : Option String} (paced : activity.Paced held)
    {next : α → Activity σ β} (onward : ∀ a, (next a).Paced none) : (activity.bind next).Paced held := by
  induction activity generalizing held with
  | done a => exact (onward a).weaken held
  | step write go ih => exact fun clocks state => ih clocks state (paced clocks state)
  | await deadline wait go ih =>
    cases wait with
    | turn key => exact ⟨ih none paced.1, fun turn => ih (some turn) (paced.2 turn)⟩
    | pause length => exact fun answer => ih answer (paced answer)
    | reply request => exact ⟨paced.1, fun answer => ih answer (paced.2 answer)⟩
  | crash => trivial

/-- At its next wait an activity has used the turn that it held, or has none to use. -/
theorem Paced.settle {activity : Activity σ α} {held : Option String} (paced : activity.Paced held)
    (clocks : Clocks) (state : σ) : (activity.settle clocks state).2.Underway ∧
      ∀ deadline request next, (activity.settle clocks state).2 = .await deadline (.reply request) next →
        held = some request.key := by
  induction activity generalizing state with
  | done a => exact ⟨trivial, by rintro _ _ _ ⟨⟩⟩
  | step write go ih => exact ih clocks state (paced clocks state) (write clocks state)
  | await deadline wait go =>
    cases wait with
    | turn key => exact ⟨paced, by rintro _ _ _ ⟨⟩⟩
    | pause length => exact ⟨paced, by rintro _ _ _ ⟨⟩⟩
    | reply request =>
      refine ⟨paced.2, ?_⟩
      rintro _ _ _ ⟨⟩
      exact paced.1
  | crash => exact ⟨trivial, by rintro _ _ _ ⟨⟩⟩

theorem Paced.underway {activity : Activity σ α} (paced : activity.Paced none) : activity.Underway := by
  cases activity with
  | await deadline wait next =>
    cases wait with
    | turn | pause => exact paced
    | reply request => cases paced.1
  | done | step | crash => exact paced

end Activity

namespace Fetching

open Activity

variable {σ : Type}

private theorem tryOnce_paced (f : Fetching) (url : String) (attempt : Nat) :
    (f.tryOnce url attempt : Activity σ _).Paced none := by
  refine ⟨trivial, fun turn => ?_⟩
  dsimp only
  split
  · trivial
  next request made =>
    refine ⟨congrArg some (Request.make_key made).symm, ?_⟩
    rintro (_ | outcome)
    · trivial
    · trivial

theorem fetch_paced (f : Fetching) (url : String) : (f.fetch url : Activity σ _).Paced none := by
  suffices attempts : ∀ left attempt, (f.attempts url attempt left : Activity σ _).Paced none from
    attempts f.maxRetries 0
  intro left
  induction left with
  | zero =>
    intro attempt
    exact (f.tryOnce_paced url attempt).bind fun outcome => trivial
  | succ left ih =>
    intro attempt
    refine (f.tryOnce_paced url attempt).bind fun outcome => ?_
    split
    · split
      · rintro clocks state (_ | paused)
        · trivial
        · exact ih (attempt + 1)
      · trivial
    · trivial

end Fetching

theorem Activity.FetchesOnly.paced {σ α : Type} {activity : Activity σ α} (only : activity.FetchesOnly) :
    activity.Paced none := by
  induction only with
  | done a => trivial
  | step _ ih => exact ih
  | fetch f url _ ih => exact (f.fetch_paced url).bind ih
  | crash => trivial

/-! ### Side by side -/

namespace Traffic

variable {σ α : Type} {t : Traffic σ α} {interval : Nat} {before : List Arrival}

/-- What is true of traffic at any time, on a web that had some requests before. -/
structure Orderly (interval : Nat) (before : List Arrival) (t : Traffic σ α) : Prop where
  pace : t.pacer.interval = interval
  underway : ∀ run ∈ t.runs, run.Underway
  released : ∀ attempt ∈ t.attempts, ∃ last, t.pacer.last? attempt.request.key = some last ∧ attempt.uptime ≤ last
  spaced : t.attempts.Pairwise fun earlier later =>
    earlier.request.key = later.request.key → earlier.uptime + interval ≤ later.uptime
  proper : ∀ attempt ∈ t.attempts, attempt.IsProper
  arrivals : t.web.arrivals = before ++ t.attempts.flatMap (·.sent)

/-- Whoever has the turn of a key may make a request now. -/
structure Clears (t : Traffic σ α) (interval uptime : Nat) (key : String) : Prop where
  last : t.pacer.last? key = some uptime
  apart : ∀ attempt ∈ t.attempts, attempt.request.key = key → attempt.uptime + interval ≤ uptime

private theorem Orderly.send (orderly : t.Orderly interval before) {uptime : Nat} {request : Request}
    (clears : t.Clears interval uptime request.key) : (t.send uptime request).Orderly interval before := by
  unfold Traffic.send
  split
  · exact orderly
  obtain ⟨sent, arrivals, few, together, first⟩ :=
    Script.sendFrom_arrivals request.userAgent t.web uptime request.url Script.maxRequests
  have sending : (t.web.send uptime request).web.arrivals = t.web.arrivals ++ sent := arrivals
  dsimp only
  rw [sending, List.drop_left]
  refine ⟨orderly.pace, orderly.underway, ?_, ?_, ?_, ?_⟩
  · exact List.forall_mem_append.mpr ⟨orderly.released,
      List.forall_mem_singleton.mpr ⟨uptime, clears.last, Nat.le_refl _⟩⟩
  · refine List.pairwise_append.mpr ⟨orderly.spaced, List.pairwise_singleton _ _, ?_⟩
    intro earlier member later new same
    cases List.mem_singleton.mp new
    exact clears.apart earlier member same
  · exact List.forall_mem_append.mpr ⟨orderly.proper, List.forall_mem_singleton.mpr ⟨few, together, first⟩⟩
  · rw [sending, orderly.arrivals, List.flatMap_append, List.flatMap_singleton, List.append_assoc]

private theorem Orderly.goOn (orderly : t.Orderly interval before) {run : Activity σ α} {held : Option String}
    (paced : run.Paced held) (clocks : Clocks) (index : Nat)
    (clears : ∀ key, held = some key → t.Clears interval clocks.uptime key) :
    (t.goOn clocks index run).Orderly interval before := by
  obtain ⟨underway, used⟩ := paced.settle clocks t.state
  unfold Traffic.goOn
  generalize run.settle clocks t.state = settled at underway used
  obtain ⟨state, run⟩ := settled
  have moved : Orderly interval before { t with state, runs := t.runs.set index run } := by
    refine ⟨orderly.pace, fun other member => ?_, orderly.released, orderly.spaced, orderly.proper,
      orderly.arrivals⟩
    rcases List.mem_or_eq_of_mem_set member with old | rfl
    · exact orderly.underway other old
    · exact underway
  dsimp only
  split
  next deadline request next =>
    obtain ⟨last, apart⟩ := clears request.key (used deadline request next rfl)
    exact moved.send ⟨last, apart⟩
  · exact moved

/-- A turn that is given out clears the way for one request, and forgets no other. -/
private theorem Orderly.turn (orderly : t.Orderly interval before) {uptime : Nat} {key : String}
    (now : t.pacer.releaseTime 1 key uptime = uptime) :
    Orderly interval before { t with pacer := (t.pacer.wait 1 key uptime).2 } ∧
      Clears { t with pacer := (t.pacer.wait 1 key uptime).2 } interval uptime key := by
  have apart (attempt : Attempt) (member : attempt ∈ t.attempts) (same : attempt.request.key = key) :
      attempt.uptime + interval ≤ uptime := by
    obtain ⟨last, released, after⟩ := orderly.released attempt member
    have ready := Pacer.ready_le_releaseTime Nat.one_pos (same ▸ released) uptime
    rw [now, orderly.pace] at ready
    omega
  refine ⟨⟨orderly.pace, orderly.underway, fun attempt member => ?_, orderly.spaced, orderly.proper,
    orderly.arrivals⟩, ?_, apart⟩
  · dsimp only
    rw [Pacer.last?_wait, now]
    split
    next same =>
      have spaced := apart attempt member (eq_of_beq same).symm
      exact ⟨uptime, rfl, by omega⟩
    · exact orderly.released attempt member
  · dsimp only
    rw [Pacer.last?_wait, now, if_pos (beq_self_eq_true key)]

theorem Orderly.after (orderly : t.Orderly interval before) (event : Event) :
    (t.after event).Orderly interval before := by
  unfold Traffic.after
  split
  next deadline wait next present =>
    have underway := orderly.underway _ (List.mem_of_getElem? present)
    -- An activity has a turn to use only if this is what its wait ended with.
    have idle (paced : (next (event.answer wait)).Paced none) :
        (t.goOn event.clocks event.index (next (event.answer wait))).Orderly interval before :=
      orderly.goOn paced event.clocks event.index nofun
    cases wait with
    | turn key =>
      cases turn : event.answer (.turn key) with
      | none =>
        rw [turn] at idle
        exact idle underway.1
      | some granted =>
        dsimp only [paced?]
        split
        next pacer given =>
          split at given
          next now =>
            cases given
            obtain ⟨onward, clears⟩ := orderly.turn now
            refine onward.goOn (underway.2 granted) event.clocks event.index ?_
            rintro _ ⟨⟩
            exact clears
          · cases given
        · exact orderly
    | pause length => exact idle (underway _)
    | reply request => exact idle (underway _)
  next run begins present =>
    have underway := orderly.underway _ (List.mem_of_getElem? present)
    have paced : run.Paced none := by
      cases run with
      | await deadline wait next => exact (begins deadline wait next rfl).elim
      | done | step | crash => exact underway
    exact orderly.goOn paced event.clocks event.index nofun
  · exact orderly

theorem Orderly.afterAll (orderly : t.Orderly interval before) (events : List Event) :
    (t.afterAll events).Orderly interval before := by
  induction events generalizing t with
  | nil => exact orderly
  | cons event rest ih => exact ih (orderly.after event)

theorem Orderly.new (state : σ) {runs : List (Activity σ α)} (only : ∀ run ∈ runs, run.FetchesOnly)
    (pacer : Pacer) (web : Script) : (new state runs pacer web).Orderly pacer.interval web.arrivals where
  pace := rfl
  underway run member := (only run member).paced.underway
  released := List.forall_mem_nil _
  spaced := .nil
  proper := List.forall_mem_nil _
  arrivals := (List.append_nil _).symm

end Traffic

/-! ### Sessions -/

namespace Session

variable {σ α : Type}

/-- The answer to a wait in a session is one that the pacer allows. -/
private theorem answer_paced (s : Session) (ticks : 0 < s.tick) (deadline : Option Nat) (wait : Wait) :
    (s.answer deadline wait).1.tick = s.tick ∧
      Traffic.paced? s.pacer (s.answer deadline wait).1.clocks.uptime wait (s.answer deadline wait).2 =
        some (s.answer deadline wait).1.pacer := by
  cases wait with
  | turn key =>
    have now : s.pacer.releaseTime 1 key (s.pacer.wait s.tick key s.clocks.uptime).1 =
        (s.pacer.wait s.tick key s.clocks.uptime).1 := Pacer.releaseTime_releaseTime ticks key _
    have same : s.pacer.wait 1 key (s.pacer.wait s.tick key s.clocks.uptime).1 =
        s.pacer.wait s.tick key s.clocks.uptime := Pacer.wait_releaseTime ticks key _
    rcases s.answer_turn deadline key with granted | ⟨stop, late⟩
    · rw [granted]
      refine ⟨rfl, ?_⟩
      simp only [Traffic.paced?, atUptime, now, if_true, same]
    · rw [late]
      exact ⟨rfl, rfl⟩
  | pause length =>
    obtain ⟨stop, outcome, paused⟩ := s.answer_pause deadline length
    rw [paused]
    exact ⟨rfl, rfl⟩
  | reply request =>
    simp only [answer, ask]
    split
    · exact ⟨rfl, rfl⟩
    · exact ⟨rfl, rfl⟩

/-- Traffic of one activity is where a session is. -/
structure Follows (s : Session) (state : σ) (t : Traffic σ α) : Prop where
  alone : ∃ run, t.runs = [run]
  state : t.state = state
  pacer : t.pacer = s.pacer
  web : t.web = s.web

private theorem Follows.placed {s : Session} {state : σ} {t : Traffic σ α} (follows : s.Follows state t)
    (activity : Activity σ α) : t.runs.set 0 activity = [activity] := by
  obtain ⟨run, alone⟩ := follows.alone
  rw [alone]
  rfl

/-- An activity that comes to a wait has sent what the session sends during that wait. -/
private theorem goOn_await {s : Session} {state : σ} {t : Traffic σ α} (follows : s.Follows state t)
    (deadline : Option Nat) (wait : Wait) (next : Option wait.Answer → Activity σ α) :
    ∃ waiting : Traffic σ α, t.goOn s.clocks 0 (.await deadline wait next) = waiting ∧
      waiting.runs = [.await deadline wait next] ∧ waiting.state = state ∧ waiting.pacer = s.pacer ∧
      waiting.web = (s.answer deadline wait).1.web := by
  have placed := follows.placed (.await deadline wait next)
  obtain ⟨-, rfl, pacer, web⟩ := follows
  cases wait with
  | turn key => exact ⟨_, rfl, placed, rfl, pacer, web.trans (s.turn_web deadline key).symm⟩
  | pause length => exact ⟨_, rfl, placed, rfl, pacer, web.trans (s.pause_web deadline length).symm⟩
  | reply request =>
    unfold Traffic.goOn
    simp only [Activity.settle, Traffic.send, answer, ask]
    split
    · exact ⟨_, rfl, placed, rfl, pacer, web⟩
    · exact ⟨_, rfl, placed, rfl, pacer, congrArg (fun web => (Script.send web _ _).web) web⟩

private theorem after_waiting {t : Traffic σ α} {deadline : Option Nat} {wait : Wait}
    {next : Option wait.Answer → Activity σ α} (waiting : t.runs = [.await deadline wait next]) {clocks : Clocks}
    {answer : Option wait.Answer} {pacer : Pacer}
    (paced : Traffic.paced? t.pacer clocks.uptime wait answer = some pacer) :
    t.after ⟨clocks, 0, wait.ending answer⟩ = { t with pacer }.goOn clocks 0 (next answer) := by
  simp [Traffic.after, waiting, Wait.ending_self, paced]

private theorem perform_follows (s : Session) (ticks : 0 < s.tick) (state : σ) (activity : Activity σ α)
    (t : Traffic σ α) (follows : s.Follows state t) :
    ∃ events, (s.perform state activity).1.Follows (s.perform state activity).2.1
      ((t.goOn s.clocks 0 activity).afterAll events) := by
  induction activity generalizing s state t with
  | done a => exact ⟨[], ⟨_, follows.placed (.done a)⟩, follows.state, follows.pacer, follows.web⟩
  | step write next ih =>
    obtain ⟨alone, rfl, pacer, web⟩ := follows
    exact ih s.clocks t.state s ticks _ { t with state := write s.clocks t.state } ⟨alone, rfl, pacer, web⟩
  | await deadline wait next ih =>
    obtain ⟨waiting, came, runs, rfl, pacer, web⟩ := goOn_await follows deadline wait next
    obtain ⟨tick, paced⟩ := s.answer_paced ticks deadline wait
    rw [← pacer] at paced
    obtain ⟨events, follows⟩ := ih (s.answer deadline wait).2 (s.answer deadline wait).1 (tick ▸ ticks) waiting.state
      { waiting with pacer := (s.answer deadline wait).1.pacer } ⟨⟨_, runs⟩, rfl, rfl, web⟩
    refine ⟨⟨(s.answer deadline wait).1.clocks, 0, wait.ending (s.answer deadline wait).2⟩ :: events, ?_⟩
    rw [came, Traffic.afterAll, List.foldl_cons, after_waiting runs paced]
    exact follows
  | crash => exact ⟨[], ⟨_, follows.placed .crash⟩, follows.state, follows.pacer, follows.web⟩

/-- What a session performs is a course of events in traffic of one activity. -/
theorem perform_traffic (s : Session) (ticks : 0 < s.tick) (state : σ) {activity : Activity σ α}
    (only : activity.FetchesOnly) : ∃ events, (s.perform state activity).1.Follows (s.perform state activity).2.1
      ((Traffic.new state [activity] s.pacer s.web).afterAll events) := by
  obtain ⟨events, follows⟩ := perform_follows s ticks state activity (.new state [activity] s.pacer s.web)
    ⟨⟨_, rfl⟩, rfl, rfl, rfl⟩
  have begins : ∃ first, (Traffic.new state [activity] s.pacer s.web).afterAll first =
      (Traffic.new state [activity] s.pacer s.web).goOn s.clocks 0 activity := by
    have paced := only.paced
    cases activity with
    | done | step | crash => exact ⟨[⟨s.clocks, 0, fun _ => none⟩], rfl⟩
    | await deadline wait next =>
      cases wait with
      | turn | pause => exact ⟨[], rfl⟩
      | reply request => cases paced.1
  obtain ⟨first, begun⟩ := begins
  refine ⟨first ++ events, ?_⟩
  have onward : (Traffic.new state [activity] s.pacer s.web).afterAll (first ++ events) =
      ((Traffic.new state [activity] s.pacer s.web).afterAll first).afterAll events := List.foldl_append
  rw [onward, begun]
  exact follows

end Session

end Harvest.Web
