import Harvest.CommandLine.Run
import Harvest.Proofs.Collect.Order

/-!
What a dry run promises, and what a batch then does. Both fail for the same names; but a dry run counts
enabled feeds only, while a batch that is asked for one feed collects it even if it is disabled.
-/

namespace Harvest

namespace Config

/-- The feeds of a batch: the enabled ones, or the one of a name, enabled or not. -/
def batchFeeds (config : Config) (only : Option String) : List FeedConfig :=
  match only with
  | some name => (config.findFeed name).toList
  | none => config.enabledFeeds

/-- Whether the one feed that is asked for is disabled. -/
def asksForDisabled (config : Config) (only : Option String) : Bool :=
  config.feeds.any fun feed => only == some feed.name && !feed.enabled

theorem findFeed_eq_none_iff {config : Config} {name : String} :
    config.findFeed name = none ↔ ∀ feed ∈ config.feeds, feed.name ≠ name := by
  simp [findFeed]

/-- Of feeds with different names, one at most goes by a name. -/
private theorem filter_name {feeds : List FeedConfig} (distinct : (feeds.map (·.name)).Nodup)
    (name : String) : feeds.filter (·.name == name) = (feeds.find? (·.name == name)).toList := by
  induction feeds with
  | nil => rfl
  | cons feed rest ih =>
    obtain ⟨new, distinct⟩ := List.nodup_cons.mp distinct
    rw [List.filter_cons, List.find?_cons]
    cases named : feed.name == name with
    | false => exact ih distinct
    | true =>
      have others : rest.filter (·.name == name) = [] := by
        refine List.filter_eq_nil_iff.mpr fun other member same => new (List.mem_map.mpr ?_)
        exact ⟨other, member, (beq_iff_eq.mp same).trans (beq_iff_eq.mp named).symm⟩
      simp [others]

theorem asksForDisabled_some {config : Config} (distinct : (config.feeds.map (·.name)).Nodup)
    (name : String) :
    config.asksForDisabled (some name) = (config.findFeed name).any (!·.enabled) := by
  have asked : config.asksForDisabled (some name) =
      (config.feeds.filter (·.name == name)).any (!·.enabled) := by
    rw [List.any_filter]
    refine congrArg (List.any config.feeds) (funext fun feed => congrArg (· && _) ?_)
    rw [Option.some_beq_some, Bool.beq_comm]
  rw [asked, filter_name distinct, findFeed]
  cases config.feeds.find? (·.name == name) <;> simp

theorem batchFeeds_length {config : Config} (distinct : (config.feeds.map (·.name)).Nodup)
    (only : Option String) : (config.batchFeeds only).length =
      (Report.selectedFeeds config only).length + if config.asksForDisabled only then 1 else 0 := by
  cases only with
  | none =>
    simp [batchFeeds, Report.selectedFeeds, asksForDisabled]
  | some name =>
    have selected : Report.selectedFeeds config (some name) =
        (config.findFeed name).toList.filter (·.enabled) := by
      unfold Report.selectedFeeds enabledFeeds findFeed
      rw [← filter_name distinct, List.filter_filter, List.filter_filter]
      exact List.filter_congr fun feed _ => Bool.and_comm _ _
    rw [selected, asksForDisabled_some distinct, batchFeeds]
    cases config.findFeed name with
    | none => rfl
    | some feed => cases enabled : feed.enabled <;> simp [enabled]

end Config

namespace Report

theorem linesText_concat (lines : List String) (last : String) :
    linesText (lines ++ [last]) = linesText lines ++ (last ++ "\n") := by
  simp [linesText, String.join_append]

/-- The last line of what is said about the feeds. -/
theorem feedsText_promise (config : Config) (only : Option String) :
    ∃ head, feedsText config only = head ++
      ("✓ Would collect " ++ toString (selectedFeeds config only).length ++ " feeds\n") := by
  obtain ⟨lines, is⟩ : ∃ lines, feedsText config only = linesText (lines ++
      ["✓ Would collect " ++ toString (selectedFeeds config only).length ++ " feeds"]) :=
    ⟨_, congrArg linesText (List.append_assoc _ ["", "✓ Configuration is valid"] [_]).symm⟩
  refine ⟨linesText lines, ?_⟩
  simp only [is, linesText_concat, String.append_assoc]
  rfl

end Report

namespace Collect

namespace Site

theorem startAll_length (site : Site) (jobs : List Job) :
    (site.startAll jobs).2.length = jobs.length := by
  induction jobs generalizing site with
  | nil => rfl
  | cons job rest ih => exact congrArg Nat.succ (ih (site.start job).1)

theorem finish_length {site later : Site} {done : List Report}
    {started : List (Web.Activity Store Report)} {waiting : List Job} {reports : List Report}
    (some : started = [] → waiting = [])
    (finished : site.finish done started waiting = (later, .some reports)) :
    reports.length = done.length + started.length + waiting.length := by
  fun_induction Site.finish site done started waiting with
  | case1 site done waiting =>
    cases finished
    simp [some rfl]
  | case2 => cases finished
  | case3 site done run rest ended report performed ih =>
    have length := ih (fun _ => rfl) finished
    simp only [List.length_cons] at length ⊢
    omega
  | case4 site done run rest ended report performed job waiting next begun starts ih =>
    have length := ih (by simp) finished
    simp only [List.length_append, List.length_cons, List.length_nil] at length ⊢
    omega

theorem collect_length {site later : Site} {width : Nat} {jobs : List Job} {reports : List Report}
    (collected : site.collect width jobs = (later, some reports)) : reports.length = jobs.length := by
  have length := finish_length (fun none => ?_) collected
  · rw [length, startAll_length, List.length_nil, Nat.zero_add, ← List.length_append,
      List.take_append_drop]
  · have none := congrArg List.length none
    rw [startAll_length, List.length_take, List.length_nil] at none
    exact List.drop_eq_nil_of_le (by omega)

end Site

namespace Collector

/-- How many runs come to a report depends on the choice of feeds only. -/
theorem collectEnabled_length {c later : Collector} {results : List RunResult}
    (collected : c.collectEnabled = (later, some results)) :
    results.length = c.live.current.enabledFeeds.length := by
  unfold collectEnabled at collected
  generalize performed : c.site.collect c.live.current.collection.maxConcurrentFeeds c.enabledJobs =
    outcome at collected
  obtain ⟨site, reports⟩ := outcome
  cases reports with
  | none => cases collected
  | some reports =>
    cases collected
    rw [List.length_map, Site.collect_length performed, enabledJobs, List.length_map]

end Collector

end Collect

namespace CommandLine

open Collect (Collector RunResult)

/-- A dry run fails for the names of no feed. -/
theorem dryRun_exit_iff (config : Config) (only : Option String) :
    (dryRun config only).exit ≠ 0 ↔
      ∃ name, only = some name ∧ ∀ feed ∈ config.feeds, feed.name ≠ name := by
  cases only with
  | none => exact ⟨fun failed => absurd rfl failed, nofun⟩
  | some name =>
    have unknown := @Config.findFeed_eq_none_iff config name
    cases found : config.findFeed name with
    | none =>
      rw [found] at unknown
      simp only [dryRun, found]
      exact ⟨fun _ => ⟨name, rfl, unknown.mp rfl⟩, fun _ => nofun⟩
    | some feed =>
      simp only [dryRun, found]
      refine ⟨fun failed => absurd rfl failed, ?_⟩
      rintro ⟨_, ⟨rfl⟩, none⟩
      cases found.symm.trans (unknown.mpr none)

theorem dryRun_output {config : Config} {only : Option String} (fine : (dryRun config only).exit = 0) :
    (dryRun config only).output = Report.settingsText config ++ Report.feedsText config only := by
  cases only with
  | none => rfl
  | some name =>
    unfold dryRun at fine ⊢
    dsimp only at fine ⊢
    split at fine
    next => cases fine
    next known => rw [if_neg known]; rfl

theorem runBatch_error_iff (c : Collector) (place : Config.Place) (only : Option String) :
    (∃ fault, (runBatch c place only).2 = some (.error fault)) ↔ ∃ name, only = some name ∧
      ∀ feed ∈ (c.reload place).1.live.current.feeds, feed.name ≠ name := by
  cases only with
  | none =>
    refine ⟨?_, nofun⟩
    rintro ⟨fault, failed⟩
    obtain ⟨results, -, failed⟩ := Option.map_eq_some_iff.mp failed
    cases failed
  | some name =>
    simp only [Option.some.injEq, exists_eq_left', ← Config.findFeed_eq_none_iff]
    simp only [runBatch, Collector.collectByName]
    cases (c.reload place).1.live.current.findFeed name with
    | none => exact ⟨fun _ => rfl, fun _ => ⟨_, rfl⟩⟩
    | some feed =>
      refine ⟨?_, nofun⟩
      rintro ⟨fault, failed⟩
      simp only [Option.map_map, Option.map_eq_some_iff] at failed
      obtain ⟨result, -, failed⟩ := failed
      cases failed

/-- A batch that is done tells of as many runs as it has feeds. -/
theorem runBatch_ok {c : Collector} {place : Config.Place} {only : Option String} {text : String}
    (done : (runBatch c place only).2 = some (.ok text)) : ∃ results, text = Report.batchText results ∧
      results.length = ((c.reload place).1.live.current.batchFeeds only).length := by
  cases only with
  | none =>
    obtain ⟨results, collected, printed⟩ := Option.map_eq_some_iff.mp done
    cases printed
    exact ⟨results, rfl, Collector.collectEnabled_length (Prod.ext rfl collected)⟩
  | some name =>
    simp only [runBatch, Collector.collectByName] at done
    dsimp only [Config.batchFeeds]
    cases found : (c.reload place).1.live.current.findFeed name with
    | none =>
      rw [found] at done
      cases done
    | some feed =>
      simp only [found, Option.map_map, Option.map_eq_some_iff] at done
      obtain ⟨result, -, printed⟩ := done
      cases printed
      exact ⟨[result], rfl, rfl⟩

theorem runBatch_reports (c : Collector) (place : Config.Place) (only : Option String)
    (known : ¬∃ name, only = some name ∧
      ∀ feed ∈ (c.reload place).1.live.current.feeds, feed.name ≠ name)
    (reach : (c.reload place).1.ReachesAt c.site.session.clocks.now) :
    ∃ results, (runBatch c place only).2 = some (.ok (Report.batchText results)) ∧
      results.map (·.feed) = ((c.reload place).1.live.current.batchFeeds only).map (·.name) := by
  cases only with
  | none =>
    obtain ⟨later, results, collected, named⟩ := (c.reload place).1.collectEnabled_reports reach
    refine ⟨results, ?_, named⟩
    simp only [runBatch, collected]
    rfl
  | some name =>
    simp only [Option.some.injEq, exists_eq_left', ← Config.findFeed_eq_none_iff] at known
    obtain ⟨feed, found⟩ := Option.ne_none_iff_exists'.mp known
    obtain ⟨later, result, collected, named⟩ := (c.reload place).1.collectFeed_reports reach feed
    refine ⟨[result], ?_, ?_⟩
    · simp only [runBatch, Collector.collectByName, found, collected]
      rfl
    · simp [Config.batchFeeds, found, named]

/-- A dry run fails if and only if a batch under the same configuration does, which is for the name of no
feed. Otherwise a batch runs its feeds to the end, unless the window for duplicates leaves the calendar, and
they are as many as the dry run promised, and one more if the feed asked for is disabled. -/
theorem dryRun_tells_batch (c : Collector) (place : Config.Place) (only : Option String)
    (valid : (c.reload place).1.live.current.validate = .ok ()) :
    let config := (c.reload place).1.live.current
    let promised := (Report.selectedFeeds config only).length
    ((dryRun config only).exit ≠ 0 ↔
      ∃ name, only = some name ∧ ∀ feed ∈ config.feeds, feed.name ≠ name) ∧
    ((dryRun config only).exit ≠ 0 ↔ ∃ fault, (runBatch c place only).2 = some (.error fault)) ∧
    ((dryRun config only).exit = 0 → (∃ head, (dryRun config only).output =
        head ++ ("✓ Would collect " ++ toString promised ++ " feeds\n")) ∧
      ((c.reload place).1.ReachesAt c.site.session.clocks.now → ∃ results,
        (runBatch c place only).2 = some (.ok (Report.batchText results)) ∧
        results.map (·.feed) = (config.batchFeeds only).map (·.name))) ∧
    ∀ text, (runBatch c place only).2 = some (.ok text) → ∃ results, text = Report.batchText results ∧
      results.length = promised + if config.asksForDisabled only then 1 else 0 := by
  intro config promised
  have unknown := dryRun_exit_iff config only
  refine ⟨unknown, unknown.trans (runBatch_error_iff c place only).symm, fun fine => ⟨?_, ?_⟩, ?_⟩
  · obtain ⟨head, is⟩ := Report.feedsText_promise config only
    exact ⟨Report.settingsText config ++ head, by rw [dryRun_output fine, is, ← String.append_assoc]⟩
  · exact runBatch_reports c place only (unknown.not.mp (not_not.mpr fine))
  · intro text done
    obtain ⟨results, printed, length⟩ := runBatch_ok done
    exact ⟨results, printed, length.trans (Config.batchFeeds_length (Config.validate_names valid) only)⟩

theorem dryRun_tells_batch_two :
    Collector.twoFeeds.live.current.validate = .ok () ∧
      (dryRun Collector.twoFeeds.live.current (some "Wire")).exit = 0 ∧
      (∃ head, (dryRun Collector.twoFeeds.live.current (some "Wire")).output =
        head ++ "✓ Would collect 1 feeds\n") ∧
      ∃ results, (runBatch Collector.twoFeeds none (some "Wire")).2 =
        some (.ok (Report.batchText results)) ∧ results.map (·.feed) = ["Wire"] := by
  have valid : Collector.twoFeeds.live.current.validate = .ok () := by decide +kernel
  have reach : Collector.twoFeeds.ReachesAt Collector.twoFeeds.site.session.clocks.now := by
    unfold Collector.ReachesAt
    decide +kernel
  obtain ⟨-, -, agrees, -⟩ := dryRun_tells_batch Collector.twoFeeds none (some "Wire") valid
  obtain ⟨promise, reports⟩ := agrees rfl
  exact ⟨valid, rfl, promise, reports reach⟩

/-- A collector of one feed, which is disabled. -/
def disabledFeed : Collector :=
  let feed := { Collect.plainFeed "http://g.example/" [] with enabled := false }
  { Collector.twoFeeds with live := .ofConfig ⟨1, .standard, .standard, [feed]⟩ }

/-- Nothing is promised for a disabled feed, but it is collected. -/
theorem disabled_feed_unpromised :
    disabledFeed.live.current.validate = .ok () ∧
      (dryRun disabledFeed.live.current (some "Wire")).exit = 0 ∧
      (∃ head, (dryRun disabledFeed.live.current (some "Wire")).output =
        head ++ "✓ Would collect 0 feeds\n") ∧
      ∃ results, (runBatch disabledFeed none (some "Wire")).2 = some (.ok (Report.batchText results)) ∧
        results.map (·.feed) = ["Wire"] := by
  have valid : disabledFeed.live.current.validate = .ok () := by decide +kernel
  have reach : disabledFeed.ReachesAt disabledFeed.site.session.clocks.now := by
    unfold Collector.ReachesAt
    decide +kernel
  obtain ⟨head, is⟩ := Report.feedsText_promise disabledFeed.live.current (some "Wire")
  refine ⟨valid, rfl, ⟨Report.settingsText disabledFeed.live.current ++ head, ?_⟩, ?_⟩
  · rw [String.append_assoc]
    exact congrArg (Report.settingsText disabledFeed.live.current ++ ·) is
  · refine runBatch_reports disabledFeed none (some "Wire") ?_ reach
    rintro ⟨_, ⟨rfl⟩, unknown⟩
    exact unknown _ List.mem_cons_self rfl

end CommandLine

end Harvest
