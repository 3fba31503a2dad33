import Harvest.Proofs.Collect.Upshot

/-!
Two stores in step. Where the same entries are handled in two stores, one of which has items of others
besides, the same becomes of each, as long as no entry is like one of the others' items; only the ids are
not the same.
-/

namespace Harvest

/-- The row of an item further on in the table, and for another source. -/
def Item.Row.moved (shift sourceId : Int) (row : Item.Row) : Item.Row :=
  { row with id := row.id + shift, sourceId }

namespace Store

variable {identity : Identity} {s t : Store} {cutoff : Instant}

/-- Two rows that are the same to an entry that looks for duplicates. -/
structure Twins (identity : Identity) (row other : Item.Row) : Prop where
  matched : identity.matchOf? other = identity.matchOf? row
  fetchedAt : other.fetchedAt = row.fetchedAt

private theorem latestFetched?_twins {rows others : List Item.Row}
    (twins : List.Forall₂ (Twins identity) rows others) :
    Option.Rel (Twins identity) (latestFetched? rows) (latestFetched? others) := by
  induction twins with
  | nil => exact .none
  | cons twin _ ih =>
    unfold latestFetched?
    generalize latestFetched? _ = latest at ih
    generalize latestFetched? _ = latest' at ih
    cases ih with
    | none => exact .some twin
    | some later =>
      dsimp only
      rw [later.fetchedAt, twin.fetchedAt]
      split
      · exact .some later
      · exact .some twin

/-- Items that an entry is unlike do not change what it is a duplicate of. -/
private theorem duplicateSince_twins {old strange rows others : List Item.Row}
    (items : s.items = old ++ rows) (items' : t.items = old ++ strange ++ others)
    (twins : List.Forall₂ (Twins identity) rows others)
    (unlike : ∀ row ∈ strange, identity.matchOf? row = none) :
    (t.duplicateSince cutoff identity).map (·.matchedOn) =
      (s.duplicateSince cutoff identity).map (·.matchedOn) := by
  have none : strange.filter (fun row => (identity.matchOf? row).isSome &&
      decide (Rfc3339.micros cutoff ≤ row.fetchedAt)) = [] := by
    refine List.filter_eq_nil_iff.mpr fun row member => ?_
    simp [unlike row member]
  have same : List.Forall₂ (Twins identity) old old := List.forall₂_same.mpr fun _ _ => ⟨rfl, rfl⟩
  have all : List.Forall₂ (Twins identity) (old ++ rows) (old ++ others) := List.rel_append same twins
  have found : List.Forall₂ (Twins identity)
      ((old ++ rows).filter fun row => (identity.matchOf? row).isSome &&
        decide (Rfc3339.micros cutoff ≤ row.fetchedAt))
      ((old ++ others).filter fun row => (identity.matchOf? row).isSome &&
        decide (Rfc3339.micros cutoff ≤ row.fetchedAt)) :=
    List.rel_filter (fun _ _ twin => by simp only [twin.matched, twin.fetchedAt]) all
  unfold duplicateSince
  dsimp only
  rw [items, items', List.filter_append, List.filter_append, none, List.append_nil, ← List.filter_append]
  have latest := latestFetched?_twins found
  generalize latestFetched? _ = first at latest
  generalize latestFetched? _ = second at latest
  cases latest with
  | none => rfl
  | some twin =>
    simp only [twin.matched, Option.map_map]
    rfl

end Store

namespace Collect

/-! ### Two stores in step -/

/-- The outcome for an entry whose item stands further on in the table. -/
def EntryOutcome.moved (shift : Int) : EntryOutcome → EntryOutcome
  | stored id => stored (id + shift)
  | skipped reason => skipped reason

/-- A row has the address and the content of an entry. -/
def StemsFrom (readings : List (Feed.Entry × Reading)) (row : Item.Row) : Prop :=
  ∃ entry address content, (entry, .ok (address, content)) ∈ readings ∧
    row.externalId = address ∧ row.url = address ∧ row.hash = contentHash content

/-- From one store on, the same rows were added in two stores: in the first next to its own, for the
source `i`, and in the second behind foreign ones, for the source `j`. -/
structure InStep (begun : Store) (foreign : List Item.Row) (i j : Int) (readings : List (Feed.Entry × Reading))
    (rows : List Item.Row) (s t : Store) : Prop where
  items : s.items = begun.items ++ rows
  items' : t.items = begun.items ++ foreign ++ rows.map (·.moved foreign.length j)
  lastItemId : s.lastItemId = begun.lastItemId + rows.length
  lastItemId' : t.lastItemId = s.lastItemId + foreign.length
  own : ∀ row ∈ rows, row.sourceId = i ∧ (begun.lastItemId < row.id ∧ row.id ≤ s.lastItemId) ∧
    StemsFrom readings row
  refused : t.refused = s.refused
  known : s.sources.any (·.id == i) = true
  known' : t.sources.any (·.id == j) = true

/-- No row is taken for one of the items that are to be read: not for its source, if it was there before,
and not for its address or its content, if it is foreign. -/
structure Unrelated (begun : Store) (foreign : List Item.Row) (i j : Int)
    (readings : List (Feed.Entry × Reading)) : Prop where
  owners : ∀ row ∈ begun.items, row.sourceId = i ↔ row.sourceId = j
  unlike : ∀ entry address content, (entry, .ok (address, content)) ∈ readings → ∀ row ∈ foreign,
    (⟨address, address, contentHash content⟩ : Store.Identity).matchOf? row = none

namespace InStep

variable {begun s t : Store} {foreign rows : List Item.Row} {i j : Int}
  {readings : List (Feed.Entry × Reading)} {job : Job} {now : Instant}

private theorem twins (identity : Store.Identity) (rows : List Item.Row) (shift : Int) :
    List.Forall₂ (Store.Twins identity) rows (rows.map (·.moved shift j)) :=
  List.forall₂_map_right_iff.mpr (List.forall₂_same.mpr fun _ _ => ⟨rfl, rfl⟩)

private theorem findDuplicate? (inStep : InStep begun foreign i j readings rows s t)
    {identity : Store.Identity} (unlike : ∀ row ∈ foreign, identity.matchOf? row = none) (now : Instant)
    (days : Nat) :
    (t.findDuplicate? now days identity).map (·.map (·.matchedOn)) =
      (s.findDuplicate? now days identity).map (·.map (·.matchedOn)) := by
  unfold Store.findDuplicate?
  split
  · rfl
  · rw [Option.map_map, Option.map_map]
    congr 1
    funext cutoff
    exact Store.duplicateSince_twins inStep.items inStep.items' (twins identity rows _) unlike

/-- A source has an item of a name in the one store if it has it in the other. -/
private theorem hasKey_eq (inStep : InStep begun foreign i j readings rows s t)
    (owners : ∀ row ∈ begun.items, row.sourceId = i ↔ row.sourceId = j) {address : String}
    (unlike : ∀ row ∈ foreign, row.externalId ≠ address) :
    t.items.any (·.hasKey j address) = s.items.any (·.hasKey i address) := by
  have old : begun.items.any (·.hasKey j address) = begun.items.any (·.hasKey i address) := by
    rw [Bool.eq_iff_iff, List.any_eq_true, List.any_eq_true]
    refine exists_congr fun row => and_congr_right fun member => ?_
    simp only [Item.Row.hasKey, Bool.and_eq_true, beq_iff_eq, owners row member]
  have strange : foreign.any (·.hasKey j address) = false := by
    refine List.any_eq_false.mpr fun row member => ?_
    simp [Item.Row.hasKey, unlike row member]
  have own : (rows.map (·.moved foreign.length j)).any (·.hasKey j address) =
      rows.any (·.hasKey i address) := by
    rw [List.any_map, Bool.eq_iff_iff, List.any_eq_true, List.any_eq_true]
    refine exists_congr fun row => and_congr_right fun member => ?_
    simp [Item.Row.hasKey, Item.Row.moved, (inStep.own row member).1]
  rw [inStep.items, inStep.items', List.any_append, List.any_append, List.any_append, old, strange, own,
    Bool.or_false]

private theorem storeItem (inStep : InStep begun foreign i j readings rows s t)
    (owners : ∀ row ∈ begun.items, row.sourceId = i ↔ row.sourceId = j) (draft : Item.Draft)
    (owner : draft.sourceId = i) (unlike : ∀ row ∈ foreign, row.externalId ≠ draft.externalId)
    (stems : ∀ id, StemsFrom readings (Item.Row.ofDraft id draft)) :
    ∃ added, InStep begun foreign i j readings (rows ++ added) (storeItem s draft).1
        (storeItem t { draft with sourceId := j }).1 ∧
      (storeItem t { draft with sourceId := j }).2 =
        (storeItem s draft).2.map (·.moved foreign.length) := by
  have refuses : t.refuses draft.url = s.refuses draft.url := Store.refuses_eq inStep.refused draft.url
  have key := inStep.hasKey_eq owners unlike
  have none : InStep begun foreign i j readings (rows ++ []) s t := by
    rwa [List.append_nil]
  subst owner
  unfold Collect.storeItem Store.insertItem
  dsimp only
  rw [refuses, key, inStep.known, inStep.known']
  cases s.refuses draft.url with
  | true => exact ⟨[], none, rfl⟩
  | false =>
    cases s.items.any (·.hasKey draft.sourceId draft.externalId) with
    | true => exact ⟨[], none, rfl⟩
    | false =>
      have last := inStep.lastItemId
      have last' := inStep.lastItemId'
      refine ⟨[Item.Row.ofDraft (s.lastItemId + 1) draft], ⟨?_, ?_, ?_, ?_, ?_, inStep.refused, inStep.known,
        inStep.known'⟩, ?_⟩
      · exact (congrArg (· ++ _) inStep.items).trans (List.append_assoc ..)
      · have moved : Item.Row.ofDraft (t.lastItemId + 1) { draft with sourceId := j } =
            (Item.Row.ofDraft (s.lastItemId + 1) draft).moved foreign.length j := by
          have next : t.lastItemId + 1 = s.lastItemId + 1 + foreign.length := by omega
          rw [next]
          rfl
        rw [List.map_append, ← List.append_assoc, ← inStep.items', List.map_singleton, ← moved]
        rfl
      · rw [List.length_append, List.length_singleton]
        push_cast
        change s.lastItemId + 1 = _
        omega
      · change t.lastItemId + 1 = s.lastItemId + 1 + foreign.length
        omega
      · intro row member
        rcases List.mem_append.mp member with before | new
        · obtain ⟨mine, within, stem⟩ := inStep.own row before
          exact ⟨mine, ⟨within.1, Int.le_trans within.2 (Int.le_of_lt (Int.lt_succ _))⟩, stem⟩
        · cases List.mem_singleton.mp new
          refine ⟨rfl, ⟨?_, Int.le_refl _⟩, stems _⟩
          change begun.lastItemId < s.lastItemId + 1
          omega
      · refine congrArg (fun id => Except.ok (EntryOutcome.stored id)) ?_
        omega

private theorem handle (inStep : InStep begun foreign i j readings rows s t)
    (unrelated : Unrelated begun foreign i j readings)
    (reach : (Store.daysBefore? now job.config.collection.dedupWindowDays).isSome = true)
    {entry : Feed.Entry} {reading : Reading} (among : (entry, reading) ∈ readings) :
    ∃ added, InStep begun foreign i j readings (rows ++ added) (job.handle now i s entry reading).1
        (job.handle now j t entry reading).1 ∧
      (job.handle now j t entry reading).2 =
        (job.handle now i s entry reading).2.map (·.moved foreign.length) := by
  have none : InStep begun foreign i j readings (rows ++ []) s t := by
    rwa [List.append_nil]
  unfold Job.handle
  match reading with
  | .error reason => exact ⟨[], none, rfl⟩
  | .ok (address, content) =>
    have unlike := unrelated.unlike entry address content among
    have found := inStep.findDuplicate? unlike now job.config.collection.dedupWindowDays
    obtain ⟨first, looked⟩ := Option.isSome_iff_exists.mp
      (s.findDuplicate?_isSome ⟨address, address, contentHash content⟩ reach)
    obtain ⟨second, looked'⟩ := Option.isSome_iff_exists.mp
      (t.findDuplicate?_isSome ⟨address, address, contentHash content⟩ reach)
    rw [looked, looked', Option.map_some, Option.map_some] at found
    have found := Option.some.inj found
    dsimp only
    rw [looked, looked']
    match first, second, found with
    | some first, some second, found =>
      have matched : second.matchedOn = first.matchedOn := Option.some.inj found
      refine ⟨[], none, ?_⟩
      dsimp only
      rw [matched]
      rfl
    | .none, .none, _ =>
      refine inStep.storeItem unrelated.owners (job.itemDraft i now entry address content) rfl
        (fun row member same => ?_) fun id => ⟨entry, address, content, among, rfl, rfl, rfl⟩
      have matched : ((⟨address, address, contentHash content⟩ : Store.Identity).matchOf? row).isSome = true :=
        Store.matchOf?_isSome_iff.mpr (Or.inl same)
      rw [unlike row member] at matched
      cases matched

/-- Two stores stay in step while the entries are handled, and the outcomes are the same but for the ids. -/
theorem handleAll (unrelated : Unrelated begun foreign i j readings)
    (reach : (Store.daysBefore? now job.config.collection.dedupWindowDays).isSome = true)
    (inStep : InStep begun foreign i j readings rows s t) {some : List (Feed.Entry × Reading)}
    (among : ∀ pair ∈ some, pair ∈ readings) :
    ∃ added, InStep begun foreign i j readings added (job.handleAll now i s some).1
        (job.handleAll now j t some).1 ∧
      (job.handleAll now j t some).2 =
        (job.handleAll now i s some).2.map fun pair => (pair.1, pair.2.map (·.moved foreign.length)) := by
  induction some generalizing rows s t with
  | nil => exact ⟨rows, inStep, rfl⟩
  | cons first rest ih =>
    obtain ⟨added, next, outcome⟩ := inStep.handle unrelated reach (among first List.mem_cons_self)
    obtain ⟨all, last, journal⟩ := ih next fun pair member => among pair (List.mem_cons_of_mem _ member)
    refine ⟨all, last, ?_⟩
    rw [Job.handleAll, Job.handleAll]
    dsimp only
    rw [outcome, journal]
    rfl

end InStep

/-! ### What is told of moved items -/

private theorem count_moved (entry : Feed.Entry) (outcome : Except Store.Error EntryOutcome) (shift : Int)
    (r : RunResult) : Job.count entry (outcome.map (·.moved shift)) r = Job.count entry outcome r := by
  match outcome with
  | .ok (.stored _) => rfl
  | .ok (.skipped _) => rfl
  | .error _ => rfl

theorem tallied_moved (journal : Journal) (shift : Int) (r : RunResult) :
    r.tallied (journal.map fun pair => (pair.1, pair.2.map (·.moved shift))) = r.tallied journal := by
  induction journal generalizing r with
  | nil => rfl
  | cons first rest ih =>
    rw [List.map_cons, RunResult.tallied_cons, count_moved, ih, ← RunResult.tallied_cons]

end Collect

end Harvest
