import Harvest.Collect.Run
import Harvest.Proofs.Config.Validation
import Harvest.Proofs.Store.History

/-!
What accepted configurations are good for. Exactly the valid ones are accepted; in these every feed is found by its
name, and no two feeds are kept in one row.
-/

namespace Harvest.Config

/-- Of feeds with different names, each is the one that its name finds. -/
theorem findFeed_of_mem {config : Config} (distinct : (config.feeds.map (·.name)).Nodup) {feed : FeedConfig}
    (member : feed ∈ config.feeds) : config.findFeed feed.name = some feed := by
  unfold findFeed
  cases found : config.feeds.find? (fun other => other.name == feed.name) with
  | none => exact absurd (beq_self_eq_true feed.name) (List.find?_eq_none.mp found feed member)
  | some other =>
    have same : other.name = feed.name := by simpa using List.find?_some found
    rw [List.inj_on_of_nodup_map distinct (List.mem_of_find?_eq_some found) member same]

/-- The row that is made for a feed. -/
def rowOf (config : Config) (feed : FeedConfig) (id : Int) (now : Instant) : Source.Row :=
  .ofDraft id now (Collect.Job.mk config feed 0).sourceDraft

theorem accepted_iff_valid (config : Config) :
    (config.validate = .ok () ↔ config.Valid) ∧
    (config.validate = .ok () →
      (∀ feed ∈ config.feeds, config.findFeed feed.name = some feed) ∧
      config.feeds.Pairwise fun a b => ∀ (id other : Int) (now later : Instant),
        (config.rowOf a id now).key ≠ (config.rowOf b other later).key) := by
  refine ⟨validate_eq_ok_iff, fun accepted => ⟨fun feed => findFeed_of_mem (validate_names accepted), ?_⟩⟩
  have urls : config.feeds.Pairwise fun a b => a.url ≠ b.url := List.pairwise_map.mp (validate_feeds accepted).1
  exact urls.imp fun apart _ _ _ _ same => apart (Prod.mk.inj same).2

/-- Every number is at a bound, and the names and addresses differ by one letter. -/
private def tight : Config :=
  let feed : FeedConfig :=
    { name := "Wire", url := "http://f.example/", credibility := 0, categories := [], intervalMinutes := some 0
      maxItems := some 1, language := none, tier := none, reportingType := none, enabled := false, extra := [] }
  { version := 1
    settings := ⟨1, "a", 87600, 1, 1⟩
    collection := ⟨"d", 0.001, 0, 1, 604800, 0, 64⟩
    feeds := [feed, { feed with name := "wire", url := "https://f.example/", credibility := 1 }] }

theorem accepted_iff_valid_tight :
    tight.validate = .ok () ∧ tight.Valid ∧
      (tight.findFeed "wire").map (·.url) = some "https://f.example/" ∧
      tight.feeds.Pairwise fun a b => (tight.rowOf a 1 .epoch).key ≠ (tight.rowOf b 2 .epoch).key := by
  have accepted : tight.validate = .ok () := by decide +kernel
  obtain ⟨iff, use⟩ := accepted_iff_valid tight
  obtain ⟨found, apart⟩ := use accepted
  refine ⟨accepted, iff.mp accepted, ?_, apart.imp fun keys => keys 1 2 .epoch .epoch⟩
  have second := found _ (List.mem_cons_of_mem _ List.mem_cons_self)
  exact congrArg (Option.map (·.url)) second

end Harvest.Config
