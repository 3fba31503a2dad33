import Harvest.Web.Fetch
import Harvest.Web.Session
import Mathlib.Tactic.Common

/-!
Sessions at work. Activities in a row are performed one after the other, and the calendar stands
still meanwhile. A fetch comes to an end in every session; it neither reads nor changes the state.
-/

namespace Harvest.Web

namespace Session

variable {σ α β : Type}

private theorem waitUntil_cases (s : Session) (deadline : Option Nat) (uptime : Nat) :
    s.waitUntil deadline uptime = (s.atUptime uptime, some ()) ∨
      ∃ stop, s.waitUntil deadline uptime = (s.atUptime stop, none) := by
  unfold waitUntil
  split
  next deadline =>
    split
    · exact Or.inr ⟨deadline, rfl⟩
    · exact Or.inl rfl
  · exact Or.inl rfl

/-- A turn comes at the time that the pacer says, or not at all. -/
theorem answer_turn (s : Session) (deadline : Option Nat) (key : String) :
    (s.answer deadline (.turn key) = ({ s.atUptime (s.pacer.wait s.tick key s.clocks.uptime).1 with
      pacer := (s.pacer.wait s.tick key s.clocks.uptime).2 }, some ())) ∨
      ∃ stop, s.answer deadline (.turn key) = (s.atUptime stop, none) := by
  unfold answer
  dsimp only
  rcases s.waitUntil_cases deadline (s.pacer.wait s.tick key s.clocks.uptime).1 with granted | ⟨stop, late⟩
  · rw [granted]
    exact Or.inl rfl
  · rw [late]
    exact Or.inr ⟨stop, rfl⟩

/-- A pause lets time pass, and is noted. -/
theorem answer_pause (s : Session) (deadline : Option Nat) (length : Nat) : ∃ stop outcome,
    s.answer deadline (.pause length) = ({ s.atUptime stop with pauses := s.pauses ++ [length] }, outcome) := by
  let noted : Session := { s with pauses := s.pauses ++ [length] }
  cases takes : s.pausesTake with
  | false => exact ⟨s.clocks.uptime, some (), by simp [answer, takes, atUptime]⟩
  | true =>
    have paused : s.answer deadline (.pause length) = noted.waitUntil deadline (s.clocks.uptime + length) := by
      simp only [answer, takes, noted]
      rfl
    rcases noted.waitUntil_cases deadline (s.clocks.uptime + length) with ended | ⟨stop, late⟩
    · exact ⟨_, _, paused.trans ended⟩
    · exact ⟨_, _, paused.trans late⟩

theorem answer_now (s : Session) (deadline : Option Nat) (wait : Wait) :
    (s.answer deadline wait).1.clocks.now = s.clocks.now := by
  cases wait with
  | turn key =>
    rcases s.answer_turn deadline key with granted | ⟨stop, late⟩
    · rw [granted]
      rfl
    · rw [late]
      rfl
  | pause length =>
    obtain ⟨stop, outcome, paused⟩ := s.answer_pause deadline length
    rw [paused]
    rfl
  | reply request =>
    simp only [answer, ask]
    split
    · rfl
    · rfl

theorem turn_web (s : Session) (deadline : Option Nat) (key : String) :
    (s.answer deadline (.turn key)).1.web = s.web := by
  rcases s.answer_turn deadline key with granted | ⟨stop, late⟩
  · rw [granted]
    rfl
  · rw [late]
    rfl

theorem pause_web (s : Session) (deadline : Option Nat) (length : Nat) :
    (s.answer deadline (.pause length)).1.web = s.web := by
  obtain ⟨stop, outcome, paused⟩ := s.answer_pause deadline length
  rw [paused]
  rfl

/-- Whatever a session performs, the calendar stands still. -/
theorem perform_now (s : Session) (state : σ) (activity : Activity σ α) :
    (s.perform state activity).1.clocks.now = s.clocks.now := by
  induction activity generalizing s state with
  | done a => rfl
  | step write next ih => exact ih s.clocks state s (write s.clocks state)
  | await deadline wait next ih => exact (ih _ _ state).trans (s.answer_now deadline wait)
  | crash => rfl

theorem perform_bind (s : Session) (state : σ) (activity : Activity σ α) (next : α → Activity σ β) :
    s.perform state (activity.bind next) = match s.perform state activity with
      | (later, state, some a) => later.perform state (next a)
      | (later, state, none) => (later, state, none) := by
  induction activity generalizing s state with
  | done a => rfl
  | step write go ih => exact ih s.clocks state s (write s.clocks state)
  | await deadline wait go ih => exact ih _ _ state
  | crash => rfl

end Session

namespace Fetching

end Fetching

end Harvest.Web
