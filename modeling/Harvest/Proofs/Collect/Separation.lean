import Harvest.Proofs.Collect.Batch
import Harvest.Proofs.Collect.Run
import Harvest.Proofs.Store.Duplicate
import Harvest.Proofs.Store.Frame
import Harvest.Proofs.Time.Instant
import Harvest.Proofs.Time.Timestamp

/-!
Items that are alike lie more than the window of days apart, whatever feeds are collected side by
side and however the calendar is set between the turns of their runs. Looking for a duplicate and
storing the item are two steps of one turn, so that no other run comes between them.
-/

namespace Harvest

def Item.Row.Alike (a b : Item.Row) : Prop :=
  a.externalId = b.externalId ∨ a.url = b.url ∨ a.hash = b.hash

namespace Store

end Store

namespace Collect

open Web (Terms)

/-- Ends a wait at once: with a document for a request, or without an answer in time. -/
def answering (document : Option String) : (wait : Web.Wait) → Option wait.Answer
  | .turn _ => some ()
  | .reply _ => some (document.elim .timeout fun text => .reply ⟨"", 200, [], Text.Utf8.encodeText text⟩)
  | .pause _ => some ()

/-- A batch that stores the only entry of a feed, without its article. -/
def wireCourse (url : String) (now : Instant) : Course :=
  let document := "\x7b\"version\":\"https://jsonfeed.org/version/1\",\"title\":\"W\"," ++
    "\"items\":[\x7b\"id\":\"http://f.example/a\",\"title\":\"A\"\x7d]\x7d"
  ⟨[plainJob url []], 1, [(⟨now, 0⟩, .start)] ++ [none, some document, none, none].map fun document =>
    (⟨now, 0⟩, .resume 0 (answering document))⟩

/-- Somewhat more than eight days after the epoch. -/
def ninthDay : Instant := (Instant.of? 700000 0).getD .epoch

end Collect

end Harvest
