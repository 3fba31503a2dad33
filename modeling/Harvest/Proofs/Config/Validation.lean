import Harvest.Config.Validation
import Mathlib.Data.List.Nodup

/-!
What a valid configuration is. The conditions that are checked one after another, and for each feed among those
before it, say together that every setting is within its bounds, every feed is well-formed, and no two feeds have one
name or one address.
-/

namespace Harvest.Config

theorem check_eq_ok_iff {conditions : List Condition} :
    check conditions = .ok () ↔ ∀ c ∈ conditions, c.holds = true := by
  induction conditions with
  | nil => exact ⟨fun _ _ => nofun, fun _ => rfl⟩
  | cons first rest ih =>
    rw [check, List.forall_mem_cons]
    split
    next holds => rw [ih, and_iff_right holds]
    next fails => exact ⟨nofun, fun all => absurd all.1 fails⟩

/-- What is not below something is comparable, and so a number. -/
private theorem isNaN_of_le {x y : Float} (le : y ≤ x) : x.isNaN = false := by
  have models : y.toModel ≤ x.toModel := of_decide_eq_true le
  have compared : (y.toModel.unpack.compare x.toModel.unpack).any (·.isLE) = true := models
  change x.toModel.unpack.isNaN = false
  cases unpacked : x.toModel.unpack with
  | notANumber =>
    rw [unpacked] at compared
    cases lower : y.toModel.unpack with
    | _ =>
      rw [lower] at compared
      cases compared
  | _ => rfl

private theorem isBlankText_eq_false_iff {text : String} :
    Text.isBlankText text = false ↔ ∃ c ∈ text.toList, Text.isBlank c = false := by
  simp [Text.isBlankText]

/-! ### Settings -/

structure Settings.Valid (s : Settings) : Prop where
  requestTimeout : 1 ≤ s.requestTimeoutSeconds
  userAgent : ∃ c ∈ s.userAgent.toList, Text.isBlank c = false
  lookback : 1 ≤ s.lookbackHours ∧ s.lookbackHours ≤ 87600
  interval : 1 ≤ s.intervalMinutes
  maxItems : 1 ≤ s.maxItems

theorem Settings.conditions_hold_iff {s : Settings} : (∀ c ∈ s.conditions, c.holds = true) ↔ s.Valid := by
  simp only [conditions, List.forall_mem_cons, List.not_mem_nil, false_implies, implies_true, and_true,
    decide_eq_true_eq, Bool.not_eq_true', isBlankText_eq_false_iff, isWithin_eq_true]
  constructor
  · rintro ⟨timeout, agent, lookback, interval, items⟩
    exact ⟨timeout, agent, lookback, interval, items⟩
  · rintro ⟨timeout, agent, lookback, interval, items⟩
    exact ⟨timeout, agent, lookback, interval, items⟩

structure Collection.Valid (c : Collection) : Prop where
  rate : 0.001 ≤ c.requestsPerSecond ∧ c.requestsPerSecond ≤ 10000
  rateIsNumber : c.requestsPerSecond.isNaN = false
  overlap : 0 ≤ c.overlapSeconds ∧ c.overlapSeconds ≤ 604800
  concurrency : 1 ≤ c.maxConcurrentFeeds ∧ c.maxConcurrentFeeds ≤ 64
  feedTimeout : 1 ≤ c.feedTimeoutSeconds
  database : c.databasePath ≠ ""

theorem Collection.conditions_hold_iff {c : Collection} : (∀ x ∈ c.conditions, x.holds = true) ↔ c.Valid := by
  simp only [conditions, List.forall_mem_cons, List.not_mem_nil, false_implies, implies_true, and_true,
    decide_eq_true_eq, Bool.and_eq_true, Bool.not_eq_true', isWithin_eq_true, String.isEmpty_eq_false_iff]
  constructor
  · rintro ⟨rate, overlap, concurrency, timeout, database⟩
    exact ⟨rate, isNaN_of_le rate.1, overlap, concurrency, timeout, database⟩
  · rintro ⟨rate, -, overlap, concurrency, timeout, database⟩
    exact ⟨rate, overlap, concurrency, timeout, database⟩

/-! ### Feeds -/

/-- What a feed must be like, whatever feeds are beside it. -/
structure FeedConfig.Valid (f : FeedConfig) : Prop where
  name : ∃ c ∈ f.name.toList, Text.isBlank c = false
  url : ∃ url, Url.parse f.url = .ok url ∧ (url.scheme = "http" ∨ url.scheme = "https")
  credibility : 0 ≤ f.credibility ∧ f.credibility ≤ 1
  maxItems : f.maxItems ≠ some 0

theorem addressError?_eq_none_iff {text : String} : addressError? text = none ↔
    ∃ url, Url.parse text = .ok url ∧ (url.scheme = "http" ∨ url.scheme = "https") := by
  unfold addressError?
  cases Url.parse text with
  | error e => simp
  | ok url => simp [or_iff_not_imp_left]

/-- Feeds that can be told apart, by name and by address. -/
def FeedConfig.Apart (a b : FeedConfig) : Prop := a.name ≠ b.name ∧ a.url ≠ b.url

theorem FeedConfig.conditions_hold_iff {earlier : List FeedConfig} {f : FeedConfig} :
    (∀ c ∈ f.conditions earlier, c.holds = true) ↔ f.Valid ∧ ∀ e ∈ earlier, e.Apart f := by
  have new (key : FeedConfig → String) :
      (earlier.map key).contains (key f) = false ↔ ∀ e ∈ earlier, key e ≠ key f := by
    simp
  simp only [conditions, List.forall_mem_cons, List.not_mem_nil, false_implies, implies_true, and_true,
    decide_eq_true_eq, Bool.and_eq_true, Bool.not_eq_true', bne_iff_ne, isBlankText_eq_false_iff, new (·.name),
    new (·.url), Option.isNone_iff_eq_none, addressError?_eq_none_iff]
  constructor
  · rintro ⟨name, names, url, urls, credibility, items⟩
    exact ⟨⟨name, url, credibility, items⟩, fun e member => ⟨names e member, urls e member⟩⟩
  · rintro ⟨⟨name, url, credibility, items⟩, apart⟩
    exact ⟨name, fun e member => (apart e member).1, url, fun e member => (apart e member).2, credibility, items⟩

theorem feedConditions_hold_iff {earlier feeds : List FeedConfig} :
    (∀ c ∈ feedConditions earlier feeds, c.holds = true) ↔
      (∀ feed ∈ feeds, feed.Valid) ∧ feeds.Pairwise FeedConfig.Apart ∧
        ∀ feed ∈ feeds, ∀ e ∈ earlier, e.Apart feed := by
  induction feeds generalizing earlier with
  | nil => simp [feedConditions]
  | cons feed rest ih =>
    rw [feedConditions, List.forall_mem_append, FeedConfig.conditions_hold_iff, ih, List.pairwise_cons]
    simp only [List.forall_mem_cons, forall_and]
    tauto

structure Valid (config : Config) : Prop where
  version : config.version = 1
  settings : config.settings.Valid
  collection : config.collection.Valid
  feeds : ∀ feed ∈ config.feeds, feed.Valid
  names : (config.feeds.map (·.name)).Nodup
  urls : (config.feeds.map (·.url)).Nodup

theorem validate_eq_ok_iff {config : Config} : config.validate = .ok () ↔ config.Valid := by
  have apart : config.feeds.Pairwise FeedConfig.Apart ↔
      (config.feeds.map (·.name)).Nodup ∧ (config.feeds.map (·.url)).Nodup := by
    unfold List.Nodup
    rw [List.pairwise_map, List.pairwise_map, ← List.pairwise_and_iff]
    rfl
  rw [validate, check_eq_ok_iff, conditions, List.cons_append, List.cons_append, List.forall_mem_cons,
    List.forall_mem_append, List.forall_mem_append, Settings.conditions_hold_iff, Collection.conditions_hold_iff,
    feedConditions_hold_iff, apart, beq_iff_eq]
  constructor
  · rintro ⟨version, ⟨settings, collection⟩, feeds, ⟨names, urls⟩, -⟩
    exact ⟨version, settings, collection, feeds, names, urls⟩
  · rintro ⟨version, settings, collection, feeds, names, urls⟩
    exact ⟨version, ⟨settings, collection⟩, feeds, ⟨names, urls⟩, fun _ _ _ => nofun⟩

theorem validate_feeds {config : Config} (valid : config.validate = .ok ()) :
    (config.feeds.map (·.url)).Nodup ∧ ∀ feed ∈ config.feeds, feed.credibility.isNaN = false :=
  have valid := validate_eq_ok_iff.mp valid
  ⟨valid.urls, fun feed member => isNaN_of_le (valid.feeds feed member).credibility.1⟩

theorem validate_names {config : Config} (valid : config.validate = .ok ()) :
    (config.feeds.map (·.name)).Nodup := (validate_eq_ok_iff.mp valid).names

end Harvest.Config
