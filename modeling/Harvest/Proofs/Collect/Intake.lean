import Harvest.Proofs.Collect.Passage
import Harvest.Proofs.Web.Outlook

/-!
What a run reads. Whatever a session tells in time, the outlook of its web foretells: neither the clocks
nor the deadline have a part in it. So a run that goes well takes in the entries that were to be read.
-/

namespace Harvest.Collect

open Web (Outlook Session)

namespace Job

/-- What a run reads of an entry. -/
def reading (job : Job) (o : Outlook) (entry : Feed.Entry) : Outlook × Reading :=
  match entry.address? with
  | none => (o, .error .noLink)
  | some address =>
    let (later, fetched) := o.fetch (job.fetching none) address
    match (articleText? fetched).or entry.ownText? with
    | none => (later, .error .noContent)
    | some content => (later, .ok (address, content))

def readings (job : Job) (o : Outlook) : List Feed.Entry → List (Feed.Entry × Reading)
  | [] => []
  | entry :: rest =>
    let (later, reading) := job.reading o entry
    (entry, reading) :: job.readings later rest

/-- What a run reads in all: the feed, and the pages of its entries up to the limit. -/
def reads? (job : Job) (o : Outlook) : Option (List (Feed.Entry × Reading)) :=
  match o.fetch (job.fetching none) job.feed.url with
  | (_, .error _) => none
  | (later, .ok document) =>
    (Feed.read document.body).toOption.map fun feed => job.readings later (job.taken feed)

variable {job : Job} {site : Site} {deadline : Option Nat} {session later : Session}

/-- What a run that went well made of its entries: it read them off the web, asked the store about each,
and told what became of them. -/
structure TookIn (job : Job) (site : Site) (source : Source) (readings : List (Feed.Entry × Reading))
    (journal : Journal) (r : RunResult) (later : Store) : Prop where
  read : job.reads? site.session.web.outlook = some readings
  handled : ∃ resolved taken mark,
    site.store.upsertSource site.session.clocks.now job.sourceDraft = (resolved, .ok source) ∧
    job.handleAll site.session.clocks.now source.id resolved readings = (taken, journal) ∧
    taken.recordSuccess source.id mark site.session.clocks.now = .ok later
  fetched : r.fetched = journal.length
  stored : r.stored = journal.stored.length
  skipped : r.skipped = journal.skipped.length
  errors : r.errors = journal.errors

end Job

end Harvest.Collect
