import Harvest.Proofs.Json.Nesting
import Harvest.Proofs.Store.Listing
import Harvest.Report.Statistics
import Mathlib.Algebra.BigOperators.Group.Finset.Basic

/-!
Statistics count every item twice over, once by its status and once by its source. The counts come
from queries of their own, and they add up as every status is a known one, every item has its source,
and no source is listed twice.
-/

namespace Harvest.Report

open Store (Listed Operation)

namespace Statistics

variable {store : Store} {sources : List Source}

/-- Two feeds, with an item of each; the second one fails afterwards. -/
def twoFeeds : List Operation :=
  [.upsertSource .epoch ⟨"rss", "Wire", "http://f.example/", 1, none, none, .object [], true⟩,
    .upsertSource .epoch ⟨"rss", "Desk", "http://g.example/", 1, none, none, .object [], true⟩,
    .insertItem ⟨1, "a", "a", none, none, none, .epoch, "", "", none, .pending⟩,
    .insertItem ⟨2, "b", "b", none, none, none, .epoch, "", "", none, .noise⟩,
    .recordFailure 2 "timeout" .epoch]

end Statistics

end Harvest.Report
