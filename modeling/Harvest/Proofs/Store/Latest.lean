import Harvest.Proofs.Store.Declining

/-!
What a search for duplicates gives, told by instants and not by their texts: of the items within the
window that an entry is like, one that was fetched last, and the first thing that the entry shares with
it. What is found stays found in a wider window, and while a store grows.
-/

namespace Harvest

/-- When the item was fetched, as its row tells. -/
def Item.Row.fetched? (row : Item.Row) : Option Instant := Rfc3339.parse? row.fetchedAt

namespace Store

/-- The order in which an entry is compared with an item. -/
def Match.rank : Match → Nat
  | externalId => 0
  | url => 1
  | hash => 2

namespace Identity

def Shares (identity : Identity) (row : Item.Row) : Match → Prop
  | .externalId => row.externalId = identity.externalId
  | .url => row.url = identity.url
  | .hash => row.hash = identity.hash

/-- Nothing that comes first in the order is shared. -/
structure SharesFirst (identity : Identity) (row : Item.Row) (m : Match) : Prop where
  shared : identity.Shares row m
  first : ∀ other : Match, other.rank < m.rank → ¬ identity.Shares row other

/-- An entry is like the item, which was fetched at the cutoff or later, to the microsecond. -/
structure Meets (identity : Identity) (cutoff : Instant) (row : Item.Row) : Prop where
  alike : ∃ m, identity.Shares row m
  recent : ∃ t, row.fetched? = some t ∧ cutoff.truncateMicros ≤ t

end Identity

/-- The row is one that was fetched last of those that an entry meets, and the duplicate names it. -/
structure Duplicate.Names (duplicate : Duplicate) (store : Store) (cutoff : Instant) (identity : Identity)
    (row : Item.Row) : Prop where
  stored : row ∈ store.items
  id : row.id = duplicate.itemId
  met : identity.Meets cutoff row
  first : identity.SharesFirst row duplicate.matchedOn
  latest : ∀ other ∈ store.items, identity.Meets cutoff other →
    ∃ t last, other.fetched? = some t ∧ row.fetched? = some last ∧ t ≤ last

variable {store : Store} {cutoff now : Instant} {identity : Identity} {days : Nat}

/-! ### The first thing shared -/

theorem matchOf?_first {row : Item.Row} {m : Match} (is : identity.matchOf? row = some m) :
    identity.SharesFirst row m := by
  unfold Identity.matchOf? at is
  split at is
  next same =>
    cases is
    exact ⟨eq_of_beq same, fun _ => nofun⟩
  split at is
  next noId same =>
    cases is
    refine ⟨eq_of_beq same, fun other before => ?_⟩
    cases other <;> simp_all [Match.rank, Identity.Shares]
  split at is
  next noId noUrl same =>
    cases is
    refine ⟨eq_of_beq same, fun other before => ?_⟩
    cases other <;> simp_all [Match.rank, Identity.Shares]
  · cases is

theorem shares_iff {row : Item.Row} :
    (∃ m, identity.Shares row m) ↔ (identity.matchOf? row).isSome = true := by
  rw [matchOf?_isSome_iff]
  constructor
  · rintro ⟨m, shared⟩
    cases m with
    | externalId => exact Or.inl shared
    | url => exact Or.inr (Or.inl shared)
    | hash => exact Or.inr (Or.inr shared)
  · rintro (id | url | hash)
    · exact ⟨.externalId, id⟩
    · exact ⟨.url, url⟩
    · exact ⟨.hash, hash⟩

/-! ### The row fetched last -/

theorem latestFetched?_le {rows : List Item.Row} {row : Item.Row} (latest : latestFetched? rows = some row) :
    ∀ other ∈ rows, other.fetchedAt ≤ row.fetchedAt := by
  induction rows generalizing row with
  | nil => cases latest
  | cons first rest ih =>
    intro other member
    unfold latestFetched? at latest
    split at latest
    next later found =>
      have le := ih found
      split at latest
      next before =>
        cases latest
        rcases List.mem_cons.mp member with rfl | member
        · exact String.not_lt.mp (String.lt_asymm before)
        · exact le other member
      next notBefore =>
        cases latest
        rcases List.mem_cons.mp member with rfl | member
        · exact String.le_refl _
        · exact String.le_trans (le other member) (String.not_lt.mp notBefore)
    next none =>
      cases latest
      cases rest with
      | nil =>
        cases List.mem_singleton.mp member
        exact String.le_refl _
      | cons second rest =>
        have some := latestFetched?_cons second rest
        rw [none] at some
        cases some

theorem duplicateSince_eq_some {duplicate : Duplicate} (found : store.duplicateSince cutoff identity = some duplicate) :
    ∃ row ∈ store.items, row.id = duplicate.itemId ∧ identity.matchOf? row = some duplicate.matchedOn ∧
      Rfc3339.micros cutoff ≤ row.fetchedAt ∧
      ∀ other ∈ store.items, (identity.matchOf? other).isSome = true →
        Rfc3339.micros cutoff ≤ other.fetchedAt → other.fetchedAt ≤ row.fetchedAt := by
  unfold duplicateSince at found
  dsimp only at found
  split at found
  next row latest =>
    obtain ⟨m, is, rfl⟩ := Option.map_eq_some_iff.mp found
    have ⟨member, among⟩ := List.mem_filter.mp (latestFetched?_mem latest)
    simp only [Bool.and_eq_true, decide_eq_true_eq] at among
    refine ⟨row, member, rfl, is, among.2, fun other member alike recent => ?_⟩
    refine latestFetched?_le latest other (List.mem_filter.mpr ⟨member, ?_⟩)
    simp [alike, recent]
  next => cases found

/-! ### Texts and instants -/

theorem Dated.fetched? (dated : store.Dated Instant.HasFourDigitYear) {row : Item.Row}
    (member : row ∈ store.items) : ∃ t : Instant, t.HasFourDigitYear ∧
      row.fetchedAt = Rfc3339.micros t ∧ row.fetched? = some t.truncateMicros := by
  obtain ⟨t, year, text⟩ := dated row member
  refine ⟨t, year, text, ?_⟩
  rw [Item.Row.fetched?, text, Rfc3339.parse?_micros year]

/-- An item was fetched within the window exactly if the text of its timestamp says so. -/
theorem meets_iff (dated : store.Dated Instant.HasFourDigitYear) (year : (Civil.fields cutoff).date.year ≤ 9999)
    {row : Item.Row} (member : row ∈ store.items) : identity.Meets cutoff row ↔
      (identity.matchOf? row).isSome = true ∧ Rfc3339.micros cutoff ≤ row.fetchedAt := by
  obtain ⟨t, fetched, text, reads⟩ := dated.fetched? member
  rw [← shares_iff, text, Rfc3339.micros_le_iff year fetched]
  constructor
  · rintro ⟨alike, t', is, recent⟩
    cases reads.symm.trans is
    exact ⟨alike, recent⟩
  · rintro ⟨alike, recent⟩
    exact ⟨alike, _, reads, recent⟩

theorem duplicateSince_names (dated : store.Dated Instant.HasFourDigitYear)
    (year : (Civil.fields cutoff).date.year ≤ 9999) {duplicate : Duplicate}
    (found : store.duplicateSince cutoff identity = some duplicate) :
    ∃ row, duplicate.Names store cutoff identity row := by
  obtain ⟨row, member, id, is, recent, latest⟩ := duplicateSince_eq_some found
  have met := (meets_iff dated year member).mpr ⟨Option.isSome_iff_exists.mpr ⟨_, is⟩, recent⟩
  refine ⟨row, member, id, met, matchOf?_first is, fun other present otherMet => ?_⟩
  obtain ⟨last, fetched, text, reads⟩ := dated.fetched? member
  obtain ⟨t, fetched', text', reads'⟩ := dated.fetched? present
  obtain ⟨alike, recent'⟩ := (meets_iff dated year present).mp otherMet
  refine ⟨t.truncateMicros, last.truncateMicros, reads', reads, ?_⟩
  have le := latest other present alike recent'
  rwa [text, text', Rfc3339.micros_le_iff fetched'.2 fetched] at le

theorem duplicateSince_eq_none_iff (dated : store.Dated Instant.HasFourDigitYear)
    (year : (Civil.fields cutoff).date.year ≤ 9999) :
    store.duplicateSince cutoff identity = none ↔ ∀ row ∈ store.items, ¬ identity.Meets cutoff row := by
  rw [← Option.not_isSome_iff_eq_none, duplicateSince_isSome_iff]
  constructor
  · exact fun none row member met => none ⟨row, member, (meets_iff dated year member).mp met⟩
  · rintro none ⟨row, member, found⟩
    exact none row member ((meets_iff dated year member).mpr found)

/-! ### Wider windows, later stores -/

theorem Identity.Meets.earlier {cutoff' : Instant} {row : Item.Row} (met : identity.Meets cutoff row)
    (le : cutoff' ≤ cutoff) : identity.Meets cutoff' row := by
  obtain ⟨alike, t, reads, recent⟩ := met
  exact ⟨alike, t, reads, (Instant.truncateMicros_mono le).trans recent⟩

theorem Dated.applyAll {fetched : Instant → Prop} (dated : store.Dated fetched) (ops : List Operation)
    (kind : ∀ draft, .insertItem draft ∈ ops → fetched draft.fetchedAt) :
    (ops.foldl Operation.apply store).Dated fetched := by
  induction ops generalizing store with
  | nil => exact dated
  | cons op rest ih =>
    refine ih (dated.apply op fun draft is => kind draft (is ▸ List.mem_cons_self)) fun draft member => ?_
    exact kind draft (List.mem_cons_of_mem _ member)

theorem findDuplicate?_eq (reach : daysBefore? now days = some cutoff) :
    store.findDuplicate? now days identity =
      some (if days = 0 then none else store.duplicateSince cutoff identity) := by
  unfold findDuplicate?
  split
  · rfl
  · rw [reach]
    rfl

/-- What is found stays found in a wider window. -/
theorem found_wider {wider : Nat} {cutoff' : Instant} (dated : store.Dated Instant.HasFourDigitYear)
    (year : now.HasFourDigitYear) (le : days ≤ wider) (reach : daysBefore? now days = some cutoff)
    (reach' : daysBefore? now wider = some cutoff')
    (found : ∃ duplicate, store.findDuplicate? now days identity = some (some duplicate)) :
    ∃ duplicate, store.findDuplicate? now wider identity = some (some duplicate) := by
  obtain ⟨window, _, reached, row, member, like⟩ := findDuplicate?_found_iff.mp found
  cases reached.symm.trans reach
  refine findDuplicate?_found_iff.mpr ⟨by omega, cutoff', reach', row, member, ?_⟩
  have before : cutoff' ≤ cutoff := Instant.minus_anti (Nat.mul_le_mul_right _ le) reach reach'
  have cutoffYear := (Instant.year_mono (Instant.minus_secs reach)).trans year.2
  have cutoffYear' := (Instant.year_mono (Instant.minus_secs reach')).trans year.2
  exact (meets_iff dated cutoffYear' member).mp (((meets_iff dated cutoffYear member).mpr like).earlier before)

/-- What is found stays found while a store grows. -/
theorem found_later (ops : List Operation)
    (found : ∃ duplicate, store.findDuplicate? now days identity = some (some duplicate)) :
    ∃ duplicate, (ops.foldl Operation.apply store).findDuplicate? now days identity = some (some duplicate) := by
  obtain ⟨window, cutoff, reach, row, member, like⟩ := findDuplicate?_found_iff.mp found
  exact findDuplicate?_found_iff.mpr
    ⟨window, cutoff, reach, row, (store.applyAll_items ops).subset member, like⟩

/-- After any writes of items fetched in years of four digits, and as far as the calendar reaches, an entry
is new if the window has no days or no item within it is like the entry. Otherwise the search names an item
within the window that is like it and that was fetched last of those, with the first thing shared; and it
finds something in a wider window and after any more writes, too. -/
theorem duplicate_is_latest (refused : List String) (ops : List Operation)
    (years : ∀ draft, .insertItem draft ∈ ops → draft.fetchedAt.HasFourDigitYear)
    (year : now.HasFourDigitYear) (reach : daysBefore? now days = some cutoff) (identity : Identity) :
    let store := ops.foldl Operation.apply { Store.empty with refused }
    ∃ answer, store.findDuplicate? now days identity = some answer ∧
      (answer = none ↔ days = 0 ∨ ∀ row ∈ store.items, ¬ identity.Meets cutoff row) ∧
      ∀ duplicate, answer = some duplicate →
        (∃ row, duplicate.Names store cutoff identity row) ∧
        (∀ wider, days ≤ wider → (daysBefore? now wider).isSome = true →
          ∃ other, store.findDuplicate? now wider identity = some (some other)) ∧
        ∀ more : List Operation, ∃ other,
          (more.foldl Operation.apply store).findDuplicate? now days identity = some (some other) := by
  intro store
  have empty : ({ Store.empty with refused } : Store).Dated Instant.HasFourDigitYear := fun _ => nofun
  have dated : store.Dated Instant.HasFourDigitYear := empty.applyAll ops years
  -- A cutoff may lie before the years of four digits, but not behind them.
  have cutoffYear := (Instant.year_mono (Instant.minus_secs reach)).trans year.2
  refine ⟨_, findDuplicate?_eq reach, ?_, fun duplicate is => ?_⟩
  · split
    next none => simp [none]
    next some => rw [duplicateSince_eq_none_iff dated cutoffYear, or_iff_right some]
  · have found : store.findDuplicate? now days identity = some (some duplicate) := by
      rw [findDuplicate?_eq reach, is]
    refine ⟨?_, fun wider le reach' => ?_, fun more => found_later more ⟨duplicate, found⟩⟩
    · split at is
      · cases is
      · exact duplicateSince_names dated cutoffYear is
    · obtain ⟨cutoff', reach'⟩ := Option.isSome_iff_exists.mp reach'
      exact found_wider dated year le reach reach' ⟨duplicate, found⟩

/-- Some days of the first years of the calendar, by their number since the epoch. -/
def earlyDay (days : Int) : Instant := (Instant.of? (days * 86400) 0).getD .epoch

/-- A feed with two items, of the years 1 and 3. -/
def earlyOps : List Operation :=
  [.upsertSource .epoch ⟨"rss", "Wire", "http://f.example/", 1, none, none, .object [], true⟩,
    .insertItem ⟨1, "a", "a", none, none, none, earlyDay (-719000), "text", "h", none, .pending⟩,
    .insertItem ⟨1, "b", "b", none, none, none, earlyDay (-718300), "text", "h", none, .pending⟩]

/-- A window that reaches from the year 5 back before the year 0. -/
theorem duplicate_is_latest_before_year_zero :
    (∀ draft, .insertItem draft ∈ earlyOps → draft.fetchedAt.HasFourDigitYear) ∧
    (earlyDay (-717700)).HasFourDigitYear ∧
    daysBefore? (earlyDay (-717700)) 3000 = some (earlyDay (-720700)) ∧
    (Civil.fields (earlyDay (-720700))).date.year < 0 ∧
    let store := earlyOps.foldl Operation.apply { Store.empty with refused := [] }
    let identity : Identity := ⟨"a", "c", "h"⟩
    store.findDuplicate? (earlyDay (-717700)) 3000 identity = some (some ⟨2, .hash⟩) ∧
    ∃ answer, store.findDuplicate? (earlyDay (-717700)) 3000 identity = some answer ∧
      (answer = none ↔ 3000 = 0 ∨ ∀ row ∈ store.items, ¬ identity.Meets (earlyDay (-720700)) row) ∧
      ∀ duplicate, answer = some duplicate →
        (∃ row, duplicate.Names store (earlyDay (-720700)) identity row) ∧
        (∀ wider, 3000 ≤ wider → (daysBefore? (earlyDay (-717700)) wider).isSome = true →
          ∃ other, store.findDuplicate? (earlyDay (-717700)) wider identity = some (some other)) ∧
        ∀ more : List Operation, ∃ other,
          (more.foldl Operation.apply store).findDuplicate? (earlyDay (-717700)) 3000 identity =
            some (some other) := by
  have years : ∀ draft, .insertItem draft ∈ earlyOps → draft.fetchedAt.HasFourDigitYear := by
    intro draft member
    simp only [earlyOps, List.mem_cons, Operation.insertItem.injEq, List.not_mem_nil, reduceCtorEq, or_false,
      false_or] at member
    rcases member with rfl | rfl
    · decide
    · decide
  exact ⟨years, by decide, by decide, by decide, by decide +kernel,
    duplicate_is_latest [] earlyOps years (by decide) (by decide) ⟨"a", "c", "h"⟩⟩

end Store

end Harvest
