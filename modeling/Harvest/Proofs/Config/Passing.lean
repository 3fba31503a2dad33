import Harvest.Config.Decode
import Harvest.Proofs.Json.Members

/-!
What of a feed is stored with its source. A key that is passed through keeps its value, unless a member of the
configuration's own has its name. A document can spell only two of these as keys to be passed through: its own keys
for the categories and the language are read, while those for the limit and the interval are spelled otherwise.
-/

namespace Harvest.Config

open Json (InOrder insertMembers get?_insertMembers)

/-- The names of the members that a source's configuration can have besides the passed-through ones. -/
def ownNames : List String := ["categories", "max_items", "interval_minutes", "language"]

namespace FeedConfig

variable (feed : FeedConfig) (settings : Settings)

/-- The value of a key that is passed through. -/
def passed (key : String) : Option Json := (Json.object feed.extra).get? key

/-- The value that a configuration has of its own under a name. -/
def own (key : String) : Option Json := (Json.object (feed.ownMembers settings)).get? key

theorem sourceMembers_eq :
    feed.sourceMembers settings = insertMembers (insertMembers [] feed.extra) (feed.ownMembers settings) := rfl

theorem sourceMembers_inOrder : InOrder (feed.sourceMembers settings) := by
  rw [sourceMembers_eq]
  exact InOrder.insertMembers (InOrder.insertMembers List.Pairwise.nil _) _

/-- What a configuration has of its own hides what is passed through under the same name. -/
theorem sourceConfig_get? (key : String) :
    (feed.sourceConfig settings).get? key = (feed.own settings key).or (feed.passed key) := by
  have none : (Json.object []).get? key = Option.none := rfl
  rw [sourceConfig, sourceMembers_eq, get?_insertMembers (InOrder.insertMembers List.Pairwise.nil _),
    get?_insertMembers List.Pairwise.nil, none, Option.or_none]
  rfl

theorem own_values :
    feed.own settings "categories" = some (.array (feed.categories.map .string)) ∧
    feed.own settings "max_items" = some (.int (feed.itemLimit settings)) ∧
    feed.own settings "interval_minutes" =
      some (.int (feed.intervalMinutes.getD settings.intervalMinutes)) ∧
    feed.own settings "language" = feed.language.map .string := by
  unfold own ownMembers
  cases feed.language with
  | none => exact ⟨rfl, rfl, rfl, rfl⟩
  | some language => exact ⟨rfl, rfl, rfl, rfl⟩

theorem own_other {key : String} (other : key ∉ ownNames) : feed.own settings key = none := by
  have names : (feed.ownMembers settings).map (·.1) ⊆ ownNames := by
    unfold ownMembers ownNames
    cases feed.language with
    | none => simp
    | some language => simp
  exact Json.get?_none_of_absent fun m member same =>
    other (same ▸ names (List.mem_map_of_mem member))

variable {feed}

/-- Only keys that a feed does not have are passed through. -/
theorem extra_names {json : Json} (read : ofJson json = some feed) :
    ∃ members, feed.extra = insertMembers [] members ∧ ∀ m ∈ members, m.1 ∉ keys := by
  unfold ofJson at read
  split at read
  · simp only [Option.bind_eq_bind, Option.bind_eq_some_iff, Option.pure_def, Option.some.injEq] at read
    obtain ⟨all, -, _, -, _, -, _, -, _, -, _, -, _, -, _, -, _, -, _, -, _, -, rfl⟩ := read
    refine ⟨_, (Json.insertMembers_map _ [] _).symm, fun m member => ?_⟩
    obtain ⟨x, kept, rfl⟩ := List.mem_map.mp member
    simpa using (List.mem_filter.mp kept).2
  · cases read

theorem passed_none_of_key {json : Json} (read : ofJson json = some feed) {key : String} (has : key ∈ keys) :
    feed.passed key = none := by
  obtain ⟨members, extra, names⟩ := extra_names read
  rw [passed, extra]
  refine Json.get?_none_of_absent fun m member same => ?_
  rcases Json.mem_insertMembers member with nothing | present
  · cases nothing
  · exact names m present (same ▸ has)

/-- A source's configuration has each name once: those of its own with the values of its own, and all others
that are passed through with the values they were given. Of a document's keys that are passed through, only
`max_items` and `interval_minutes` are hidden. -/
theorem passed_unless_own (feed : FeedConfig) (settings : Settings) :
    let config := feed.sourceConfig settings
    (∃ members, config = .object members ∧ InOrder members) ∧
    (∀ key, key ∉ ownNames → config.get? key = feed.passed key) ∧
    config.get? "categories" = some (.array (feed.categories.map .string)) ∧
    config.get? "max_items" = some (.int (feed.itemLimit settings)) ∧
    config.get? "interval_minutes" = some (.int (feed.intervalMinutes.getD settings.intervalMinutes)) ∧
    config.get? "language" = (feed.language.map .string).or (feed.passed "language") ∧
    ∀ json, ofJson json = some feed → feed.passed "categories" = none ∧ feed.passed "language" = none := by
  obtain ⟨categories, limit, interval, language⟩ := feed.own_values settings
  simp only [sourceConfig_get?]
  refine ⟨⟨_, rfl, feed.sourceMembers_inOrder settings⟩, fun key other => ?_, ?_, ?_, ?_, ?_, fun json read => ?_⟩
  · rw [own_other feed settings other, Option.none_or]
  · rw [categories, Option.some_or]
  · rw [limit, Option.some_or]
  · rw [interval, Option.some_or]
  · rw [language]
  · exact ⟨passed_none_of_key read (by decide), passed_none_of_key read (by decide)⟩

/-- A document with keys that are passed through, one of them named like a member of the configuration. -/
def limitDocument : Json :=
  .object [("name", .string "Wire"), ("url", .string "http://f.example/rss"), ("region", .string "emea"),
    ("max_items", .int 7)]

theorem passed_unless_own_region : "region" ∉ ownNames ∧ ∃ feed, ofJson limitDocument = some feed ∧
    (feed.sourceConfig .standard).get? "region" = feed.passed "region" ∧
    feed.passed "region" = some (.string "emea") ∧ feed.passed "language" = none := by
  refine ⟨by decide, _, rfl, ?_, rfl, ?_⟩
  · exact (passed_unless_own _ .standard).2.1 "region" (by decide)
  · exact ((passed_unless_own _ .standard).2.2.2.2.2.2 limitDocument rfl).2

/-- A document may pass a limit through, but the configuration has its own. -/
theorem passed_limit_hidden : ¬ ∀ (json : Json) (feed : FeedConfig) (settings : Settings) (key : String)
    (value : Json), ofJson json = some feed → feed.passed key = some value →
      (feed.sourceConfig settings).get? key = some value := by
  intro all
  have kept := all limitDocument _ .standard "max_items" (.int 7) rfl rfl
  rw [sourceConfig_get?, (own_values _ _).2.1, Option.some_or] at kept
  cases kept

end FeedConfig

end Harvest.Config
