import Harvest.Time.Clocks
import Harvest.Web.Request

/-!
Activities: programs that share a state with others. An activity takes steps that happen at once,
and between them waits for its turn at a domain, for an answer from the web, or for some time to
pass. Only while it waits do other activities run, so no step is ever interrupted.
-/

namespace Harvest.Web

/-- What an activity can wait for. -/
inductive Wait where
  /-- The next turn of those who ask under this key. -/
  | turn (key : String)
  | reply (request : Request)
  /-- So many nanoseconds. -/
  | pause (length : Nat)
  deriving DecidableEq

/-- What ends a wait. -/
def Wait.Answer : Wait → Type
  | turn _ => Unit
  | reply _ => Outcome
  | pause _ => Unit

/-- A program over a shared state that ends with a result. -/
inductive Activity (σ α : Type) where
  | done (a : α)
  /-- Reads the clocks and the state, changes the state, and goes on with what was read. -/
  | step (write : Clocks → σ → σ) (next : Clocks → σ → Activity σ α)
  /-- Waits. The answer is `none` if the deadline, an uptime, passes first. -/
  | await (deadline : Option Nat) (wait : Wait) (next : Option wait.Answer → Activity σ α)
  /-- Cannot go on, and takes all other activities with it. -/
  | crash

namespace Activity

variable {σ α β : Type}

def bind : Activity σ α → (α → Activity σ β) → Activity σ β
  | done a, f => f a
  | step write next, f => step write fun clocks state => (next clocks state).bind f
  | await deadline wait next, f => await deadline wait fun answer => (next answer).bind f
  | crash, _ => crash

instance : Monad (Activity σ) where
  pure := done
  bind := bind

/-- What the clocks show. -/
def clocks : Activity σ Clocks := step (fun _ state => state) fun clocks _ => done clocks

/-- Changes the state, with a result. -/
def transact (change : Clocks → σ → σ × α) : Activity σ α :=
  step (fun clocks state => (change clocks state).1) fun clocks state =>
    done (change clocks state).2

/-- Takes every step up to the next wait. -/
def settle (clocks : Clocks) (state : σ) : Activity σ α → σ × Activity σ α
  | step write next => (next clocks state).settle clocks (write clocks state)
  | activity => (state, activity)

/-- Ends the present wait, and takes every step up to the next one. -/
def resume (clocks : Clocks) (state : σ) (answer : (wait : Wait) → Option wait.Answer) :
    Activity σ α → σ × Activity σ α
  | await _ wait next => (next (answer wait)).settle clocks state
  | activity => (state, activity)

end Activity

end Harvest.Web
