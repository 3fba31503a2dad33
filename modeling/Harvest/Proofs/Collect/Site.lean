import Harvest.Collect.Batch
import Harvest.Proofs.Collect.Work
import Harvest.Proofs.Web.Deadline

/-!
Activities performed at a site. Nobody else is there, so that each part finds what the part before it
left; and a part that comes to its end comes to only one. What is said of that end may depend on whether
a wait was given up on the way there.
-/

namespace Harvest.Collect

open Web (Activity Fetching)

namespace Site

variable {α β : Type} {site : Site}

/-- The activity, performed at the site, comes to a result, and makes `result` come true. -/
def Ends (site : Site) (activity : Activity Store α) (result : α → Site → Prop) : Prop :=
  ∃ a later, site.perform activity = (later, some a) ∧ result a later

/-- Whether one of the waits of an activity is given up when it is performed at the site. -/
def givesUp (site : Site) (activity : Activity Store α) : Bool :=
  site.session.givesUp site.store activity

/-- The same as `Ends` for a `result` that also knows whether a wait was given up. -/
def Meets (site : Site) (activity : Activity Store α) (result : Bool → α → Site → Prop) : Prop :=
  site.Ends activity (result (site.givesUp activity))

theorem perform_now (site : Site) (activity : Activity Store α) :
    (site.perform activity).1.session.clocks.now = site.session.clocks.now :=
  site.session.perform_now site.store activity

theorem meets_done {result : Bool → α → Site → Prop} {a : α} :
    site.Meets (.done a) result ↔ result false a site := by
  constructor
  · rintro ⟨b, later, same, holds⟩
    cases same
    exact holds
  · exact fun holds => ⟨a, site, rfl, holds⟩

theorem Meets.mono {result result' : Bool → α → Site → Prop} {activity : Activity Store α}
    (meets : site.Meets activity result)
    (weaker : ∀ late a later, result late a later → result' late a later) : site.Meets activity result' := by
  obtain ⟨a, later, performed, holds⟩ := meets
  exact ⟨a, later, performed, weaker _ a later holds⟩

theorem ends_done {result : α → Site → Prop} {a : α} : site.Ends (.done a) result ↔ result a site :=
  @meets_done _ _ (fun _ => result) _

theorem ends_step {result : α → Site → Prop} {write : Clocks → Store → Store}
    {next : Clocks → Store → Activity Store α} : site.Ends (.step write next) result ↔
      ({ site with store := write site.session.clocks site.store } : Site).Ends
        (next site.session.clocks site.store) result := Iff.rfl

theorem ends_await {result : α → Site → Prop} {deadline : Option Nat} {wait : Web.Wait}
    {next : Option wait.Answer → Activity Store α} : site.Ends (.await deadline wait next) result ↔
      ({ site with session := (site.session.answer deadline wait).1 } : Site).Ends
        (next (site.session.answer deadline wait).2) result := Iff.rfl

theorem Ends.mono {result result' : α → Site → Prop} {activity : Activity Store α}
    (ends : site.Ends activity result) (weaker : ∀ a later, result a later → result' a later) :
    site.Ends activity result' := by
  obtain ⟨a, later, performed, holds⟩ := ends
  exact ⟨a, later, performed, weaker a later holds⟩

theorem Ends.now {result : α → Site → Prop} {activity : Activity Store α}
    (ends : site.Ends activity result) :
    site.Ends activity fun a later => later.session.clocks.now = site.session.clocks.now ∧
      result a later := by
  obtain ⟨a, later, performed, holds⟩ := ends
  have now := site.perform_now activity
  rw [performed] at now
  exact ⟨a, later, performed, now, holds⟩

theorem Meets.now {result : Bool → α → Site → Prop} {activity : Activity Store α}
    (meets : site.Meets activity result) :
    site.Meets activity fun late a later => later.session.clocks.now = site.session.clocks.now ∧
      result late a later :=
  Ends.now meets

/-- What yields a result whatever happens comes to one when it is performed. -/
theorem ends_of_yields {shown : Clocks → Prop} {yield : α → Prop} {activity : Activity Store α}
    (yields : activity.Yields shown yield)
    (reads : ∀ clocks : Clocks, clocks.now = site.session.clocks.now → shown clocks) :
    site.Ends activity fun a later => later.session.clocks.now = site.session.clocks.now ∧ yield a := by
  refine Ends.now ?_
  induction activity generalizing site with
  | done a => exact ends_done.mpr yields
  | step write next ih =>
    exact ends_step.mpr (ih site.session.clocks site.store (yields _ _ (reads _ rfl)) reads)
  | await deadline wait next ih =>
    have now := site.session.answer_now deadline wait
    exact ends_await.mpr (ih _ (yields _) fun clocks same => reads clocks (same.trans now))
  | crash => exact yields.elim

end Site

namespace Work

variable {α β : Type} {progress : Progress} {site : Site}

/-- A part of a run, performed at a site, comes to an outcome, and makes `result` come true, which also
knows whether a wait was given up. -/
def Meets (result : Bool → Except Fault α → Progress → Site → Prop) (work : Work α) (progress : Progress)
    (site : Site) : Prop :=
  site.Meets (work.activity progress) fun late ended later => result late ended.1 ended.2 later

/-- A part of a run, performed at a site, comes to an outcome, and makes `result` come true. -/
def Ends (result : Except Fault α → Progress → Site → Prop) (work : Work α) (progress : Progress)
    (site : Site) : Prop :=
  site.Ends (work.activity progress) fun ended later => result ended.1 ended.2 later

section Meets

variable {result : Bool → Except Fault α → Progress → Site → Prop}

theorem Meets.mono {result' : Bool → Except Fault α → Progress → Site → Prop} {work : Work α}
    (meets : work.Meets result progress site) (weaker : ∀ late outcome progress later,
      result late outcome progress later → result' late outcome progress later) :
    work.Meets result' progress site :=
  Site.Meets.mono meets fun late ended later => weaker late ended.1 ended.2 later

theorem Meets.now {work : Work α} (meets : work.Meets result progress site) :
    work.Meets (fun late outcome progress later => later.session.clocks.now = site.session.clocks.now ∧
      result late outcome progress later) progress site :=
  Site.Meets.now meets

end Meets

section Ends

variable {result : Except Fault α → Progress → Site → Prop}

theorem Ends.mono {result' : Except Fault α → Progress → Site → Prop} {work : Work α}
    (ends : work.Ends result progress site)
    (weaker : ∀ outcome progress later, result outcome progress later → result' outcome progress later) :
    work.Ends result' progress site :=
  Site.Ends.mono ends fun ended later => weaker ended.1 ended.2 later

end Ends

end Work

end Harvest.Collect
