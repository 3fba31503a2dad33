import Harvest.Proofs.Collect.Order
import Harvest.Proofs.Collect.Passage
import Harvest.Proofs.Collect.Window

/-!
How far back a configuration may reach. Where a run starts is always an instant of the calendar. But
nothing bounds the window in which duplicates are looked for, and a run that looks for one crashes if
that window leaves the calendar.
-/

namespace Harvest.Collect

open Web (Activity Session)

/-! ### Where runs start -/

namespace Site

variable {α β : Type} {site : Site}

/-- The activity, performed at the site, comes to no result. -/
def Crashes (site : Site) (activity : Activity Store α) : Prop := (site.perform activity).2 = none

theorem Ends.not_crashes {activity : Activity Store α} {result : α → Site → Prop}
    (ends : site.Ends activity result) : ¬site.Crashes activity := by
  obtain ⟨a, later, performed, -⟩ := ends
  rw [Crashes, performed]
  exact nofun

theorem crashes_bind {activity : Activity Store α} {next : α → Activity Store β} :
    site.Crashes (activity.bind next) ↔
      site.Crashes activity ∨ site.Ends activity fun a later => later.Crashes (next a) := by
  unfold Crashes Ends perform
  rw [Session.perform_bind]
  match site.session.perform site.store activity with
  | (session, store, some a) => simp
  | (session, store, none) => simp

end Site

namespace Work

variable {α β : Type} {progress : Progress} {site : Site}

def Crashes (work : Work α) (progress : Progress) (site : Site) : Prop :=
  site.Crashes (work.activity progress)

theorem crashes_bind {work : Work α} {next : α → Work β} : (work >>= next).Crashes progress site ↔
    work.Crashes progress site ∨ work.Ends (fun outcome progress site => match outcome with
      | .ok a => (next a).Crashes progress site
      | .error _ => False) progress site := by
  unfold Crashes Ends
  rw [activity_bind, Site.crashes_bind]
  refine or_congr_right (iff_of_eq ?_)
  congr 1
  funext ⟨outcome, progress⟩ later
  cases outcome with
  | ok _ => rfl
  | error _ => exact eq_false fun crashed =>
      (@Site.ends_done _ _ (fun _ _ => True) _).mpr trivial |>.not_crashes crashed

/-- A part crashes if a later one does, at the site where the one before leaves it. -/
theorem Crashes.behind {work : Work α} {next : α → Work β}
    (first : work.Ends (fun outcome progress site => ∃ a, outcome = .ok a ∧ (next a).Crashes progress site)
      progress site) : (work >>= next).Crashes progress site := by
  refine crashes_bind.mpr (Or.inr (first.mono fun outcome progress later done => ?_))
  obtain ⟨a, rfl, crashes⟩ := done
  exact crashes

end Work

namespace Job

variable {job : Job} {site : Site} {sourceId : Int}

end Job

/-! ### Windows of duplicates -/

namespace Collector

/-- A collector on the first day of 1970 that looks for duplicates so many days back. -/
def lookingBack (days : Nat) : Collector :=
  let config := twoFeeds.live.current
  { twoFeeds with
    live := .ofConfig { config with collection := { config.collection with dedupWindowDays := days } } }

/-- The job of the feed that answers. -/
private def wire (days : Nat) : Job := (lookingBack days).job (plainFeed "http://g.example/" [])

end Collector

end Harvest.Collect
