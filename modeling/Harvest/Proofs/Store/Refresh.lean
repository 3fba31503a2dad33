import Harvest.Proofs.Json.Members
import Harvest.Proofs.Store.Confined
import Harvest.Proofs.Store.Failure

/-!
Adding and refreshing sources. An upsert sets the columns that a feed describes, at its own address and
at no other; it leaves those that runs keep, and what it gives back is what is found afterwards.
-/

namespace Harvest

/-- What equals zero is one of the two zeros. -/
private theorem zero_beq {x : Float} (zero : (x == 0.0) = true) : ((0.0 : Float) == x) = true := by
  have unpacked : (0.0 : Float).toModel.unpack = .zero .positive := by rfl
  change (x.toModel.unpack.compare (0.0 : Float).toModel.unpack == some .eq) = true at zero
  change ((0.0 : Float).toModel.unpack.compare x.toModel.unpack == some .eq) = true
  rw [unpacked] at *
  cases is : x.toModel.unpack with
  | zero sign => rfl
  | notANumber =>
    rw [is] at zero
    cases zero
  | infinity sign =>
    rw [is] at zero
    cases sign <;> cases zero
  | finite sign =>
    rw [is] at zero
    cases sign <;> cases zero

private theorem number_beq_self {x : Float} (number : x.isNaN = false) : (x == x) = true := by
  change x.toModel.unpack.isNaN = false at number
  change (x.toModel.unpack.compare x.toModel.unpack == some .eq) = true
  cases is : x.toModel.unpack with
  | notANumber =>
    rw [is] at number
    cases number
  | infinity sign => cases sign <;> rfl
  | zero sign => rfl
  | finite sign mantissa exponent =>
    have same : (compare exponent exponent).then (compare mantissa mantissa) = .eq := by simp
    cases sign with
    | positive => exact beq_iff_eq.mpr (congrArg some same)
    | negative => exact beq_iff_eq.mpr (congrArg (fun order : Ordering => some order.swap) same)

/-- A document that is read back from its own text. -/
def Json.Survives (document : Json) : Prop := Json.parse? document.render.toList = some document

namespace Source

theorem Draft.score_beq {draft : Draft} (number : draft.credibility.isNaN = false) :
    (draft.score == draft.credibility) = true := by
  unfold score
  split
  next zero => exact zero_beq zero
  · exact number_beq_self number

/-- What a feed says of its source, as it is stored. -/
structure Description where
  name : String
  credibility : Float
  tier : Option String
  reportingType : Option String
  config : String
  active : Int

def Draft.description (draft : Draft) : Description where
  name := draft.name
  credibility := draft.score
  tier := draft.tier
  reportingType := draft.reportingType
  config := draft.config.sorted.render
  active := if draft.active then 1 else 0

/-- A source that is as its feed describes it. -/
structure IsAsTold (source : Source) (draft : Draft) : Prop where
  sourceType : source.sourceType = draft.sourceType
  url : source.url = draft.url
  name : source.name = draft.name
  credibility : (source.credibility == draft.credibility) = true
  tier : source.tier = draft.tier
  reportingType : source.reportingType = draft.reportingType
  config : draft.config.sorted.Survives → source.config = draft.config.sorted
  active : source.active = draft.active

/-- What the runs of a source amount to. -/
def bookkeeping (source : Source) : Bookkeeping :=
  ⟨source.watermark, source.lastFetchedAt, source.errorCount, source.lastError⟩

namespace Row

def description (row : Row) : Description :=
  ⟨row.name, row.credibility, row.tier, row.reportingType, row.config, row.active⟩

/-- The columns of a row that a refresh leaves read as those of a source. -/
structure Remembers (row : Row) (source : Source) : Prop where
  id : source.id = row.id
  lastFetched : Store.Column.optionalInstant 9 row.lastFetchedAt = .ok source.lastFetchedAt
  watermark : Store.Column.optionalInstant 10 row.watermark = .ok source.watermark
  failures : Store.Column.count 11 "error_count" row.errorCount = .ok source.errorCount
  lastError : source.lastError = row.lastError
  created : Store.Column.instant 13 row.createdAt = .ok source.createdAt

variable {row : Row} {source : Source} {draft : Draft} {now : Instant}

theorem succeed_description (windowEnd fetchedAt : Instant) (row : Row) :
    (row.succeed windowEnd fetchedAt).description = row.description := rfl

theorem fail_description (error : String) (now : Instant) (row : Row) :
    (row.fail error now).description = row.description := rfl

theorem readConfig_survives {config : Json} (survives : config.sorted.Survives) :
    readConfig config.sorted.render = .ok config.sorted := by
  unfold readConfig
  rw [survives]
  exact congrArg Except.ok (Json.sorted_sorted config)

theorem ReadsAs.remembers (reads : row.ReadsAs source) : row.Remembers source :=
  ⟨reads.id, reads.lastFetched, reads.watermark, reads.failures, reads.lastError, reads.created⟩

/-- What a row remembers is settled by its columns. -/
theorem Remembers.unique {other : Source} (first : row.Remembers source) (second : row.Remembers other) :
    source.id = other.id ∧ source.createdAt = other.createdAt ∧ source.bookkeeping = other.bookkeeping := by
  have lastFetched := Except.ok.inj (first.lastFetched.symm.trans second.lastFetched)
  have watermark := Except.ok.inj (first.watermark.symm.trans second.watermark)
  have failures := Except.ok.inj (first.failures.symm.trans second.failures)
  have lastError := first.lastError.trans second.lastError.symm
  refine ⟨first.id.trans second.id.symm, Except.ok.inj (first.created.symm.trans second.created), ?_⟩
  rw [bookkeeping, bookkeeping, lastFetched, watermark, failures, lastError]

/-- The bookkeeping of a row that was just added. -/
theorem ofDraft_remembers {id : Int} (remembers : (ofDraft id now draft).Remembers source) :
    source.bookkeeping = .new ∧ source.createdAt = now.truncateMicros := by
  have lastFetched : none = source.lastFetchedAt := Except.ok.inj remembers.lastFetched
  have watermark : none = source.watermark := Except.ok.inj remembers.watermark
  have failures : 0 = source.errorCount := Except.ok.inj remembers.failures
  have lastError : source.lastError = none := remembers.lastError
  have created : Store.Column.instant 13 (Rfc3339.micros now) = .ok source.createdAt := remembers.created
  refine ⟨by rw [bookkeeping, ← watermark, ← lastFetched, ← failures, lastError]; rfl, ?_⟩
  unfold Store.Column.instant at created
  by_cases year : now.HasFourDigitYear
  · rw [Rfc3339.parse?_micros year] at created
    exact (Except.ok.inj created).symm
  · rw [Rfc3339.parse?_micros_eq_none year] at created
    cases created

theorem ReadsAs.isAsTold (reads : row.ReadsAs source) (key : row.key = (draft.sourceType, draft.url))
    (described : row.description = draft.description) (number : draft.credibility.isNaN = false) :
    source.IsAsTold draft := by
  obtain ⟨sameType, sameUrl⟩ := Prod.mk.inj (reads.key.trans key)
  obtain ⟨name, score, tier, reportingType, text, active⟩ := Description.mk.inj described
  refine ⟨sameType, sameUrl, reads.name.trans name, ?_, reads.tier.trans tier,
    reads.reportingType.trans reportingType, fun survives => ?_, ?_⟩
  · rw [reads.credibility, score]
    exact draft.score_beq number
  · have config := reads.config
    rw [text, readConfig_survives survives] at config
    exact (Except.ok.inj config).symm
  · rw [reads.active, active]
    cases draft.active <;> rfl

end Row

end Source

namespace Store

variable {store later : Store} {sourceType url : String} {now : Instant} {draft : Source.Draft}

/-! ### One address through many writes -/

/-- A write to the description of the source at an address. -/
def Operation.Describes (sourceType url : String) : Operation → Prop
  | upsertSource _ draft => draft.sourceType = sourceType ∧ draft.url = url
  | recordSuccess _ _ _ | recordFailure _ _ _ | insertItem _ => False

private theorem noted_description {id : Int} {change : Source.Row → Source.Row}
    (sameOrigin : ∀ row, (change row).origin = row.origin)
    (same : ∀ row, (change row).description = row.description) (sourceType url : String) :
    (((store.updateSource id change).toOption.getD store).sourceRowAt? sourceType url).map
      Source.Row.description = (store.sourceRowAt? sourceType url).map Source.Row.description := by
  cases done : store.updateSource id change with
  | error e => rfl
  | ok later =>
    have sameKey : ∀ row, (change row).key = row.key := fun row =>
      congrArg (fun origin => (origin.2.1, origin.2.2.1)) (sameOrigin row)
    rw [Except.toOption, Option.getD_some, updateSource_at sameKey done, Option.map_map]
    congr 1
    funext row
    dsimp only [Function.comp]
    split
    · exact same row
    · rfl

theorem apply_description (store : Store) {op : Operation} (elsewhere : ¬ op.Describes sourceType url) :
    ((op.apply store).sourceRowAt? sourceType url).map Source.Row.description =
      (store.sourceRowAt? sourceType url).map Source.Row.description := by
  cases op with
  | upsertSource now draft =>
    have differ : (sourceType, url) ≠ (draft.sourceType, draft.url) := fun same =>
      elsewhere ⟨(congrArg (·.1) same).symm, (congrArg (·.2) same).symm⟩
    simp only [Operation.apply, upsertSource]
    split
    · rfl
    next put => rw [(putSource_at put).2 _ _ differ]
  | recordSuccess id windowEnd fetchedAt =>
    exact noted_description (Source.Row.succeed_origin _ _) (Source.Row.succeed_description _ _) _ _
  | recordFailure id error now =>
    exact noted_description (Source.Row.fail_origin _ _) (Source.Row.fail_description _ _) _ _
  | insertItem draft =>
    simp only [Operation.apply]
    cases done : store.insertItem draft with
    | error e => rfl
    | ok answer =>
      obtain ⟨id, later⟩ := answer
      obtain ⟨-, rfl⟩ := insertItem_ok done
      rfl

theorem applyAll_description (store : Store) {ops : List Operation}
    (elsewhere : ∀ op ∈ ops, ¬ op.Describes sourceType url) :
    ((ops.foldl Operation.apply store).sourceRowAt? sourceType url).map Source.Row.description =
      (store.sourceRowAt? sourceType url).map Source.Row.description := by
  induction ops generalizing store with
  | nil => rfl
  | cons op rest ih =>
    obtain ⟨first, others⟩ := List.forall_mem_cons.mp elsewhere
    rw [List.foldl_cons, ih (op.apply store) others, store.apply_description first]

/-! ### One upsert -/

theorem Sound.getSource_of_mem (sound : Sound store) {row : Source.Row} (member : row ∈ store.sources) :
    store.getSource row.id = row.read := by
  have found : store.sources.find? (·.id == row.id) = some row :=
    find?_of_nodup sound.sourceIds.nodup member fun other => beq_iff_eq
  simp only [getSource, sourceRow?, found]

theorem upsertSource_describes (store : Store) (now : Instant) (number : draft.credibility.isNaN = false) :
    (((Operation.upsertSource now draft).apply store).sourceRowAt? draft.sourceType draft.url).map
      Source.Row.description = some draft.description := by
  obtain ⟨later, row, -, found, made, answer⟩ := store.upsertSource_spec now number
  have written : (Operation.upsertSource now draft).apply store = later := congrArg (·.1) answer
  have described : row.description = draft.description := by
    rw [made]
    split <;> rfl
  rw [written, found, Option.map_some, described]

/-- What an upsert that succeeds has done: the source is as it was told, whatever was known of its runs
is kept, and no other row has changed. -/
structure Upserted (store later : Store) (now : Instant) (draft : Source.Draft) (source : Source) :
    Prop where
  told : source.IsAsTold draft
  kept : ∀ row ∈ store.sources, row.key = (draft.sourceType, draft.url) → row.Remembers source
  known : ∀ old, store.getSourceAt draft.sourceType draft.url = .ok (some old) →
    source.id = old.id ∧ source.createdAt = old.createdAt ∧ source.bookkeeping = old.bookkeeping
  added : (∀ row ∈ store.sources, row.key ≠ (draft.sourceType, draft.url)) →
    source.bookkeeping = .new ∧ source.createdAt = now.truncateMicros ∧
      ∀ row ∈ store.sources, row.id < source.id
  others : later.sources.filter (fun row => !row.hasKey draft.sourceType draft.url) =
    store.sources.filter fun row => !row.hasKey draft.sourceType draft.url
  items : later.items = store.items
  byId : later.getSource source.id = .ok source
  byAddress : later.getSourceAt draft.sourceType draft.url = .ok (some source)

theorem upsertSource_upserted (sound : Sound store) {source : Source}
    (done : store.upsertSource now draft = (later, .ok source)) :
    Upserted store later now draft source := by
  have number : draft.credibility.isNaN = false := by
    cases score : draft.credibility.isNaN with
    | true => cases done.symm.trans (store.upsertSource_unscored score now)
    | false => rfl
  obtain ⟨later', row, put, found, made, answer⟩ := store.upsertSource_spec now number
  obtain ⟨rfl, read⟩ := Prod.mk.inj (answer.symm.trans done)
  have soundLater := (putSource_sound sound put).1
  obtain ⟨member, key⟩ := sourceRowAt?_key found
  have reads := Source.Row.read_readsAs read
  have remembers := reads.remembers
  have kept : ∀ old, store.sourceRowAt? draft.sourceType draft.url = some old → old.Remembers source := by
    intro old before
    rw [before] at made
    subst made
    exact ⟨remembers.id, remembers.lastFetched, remembers.watermark, remembers.failures,
      remembers.lastError, remembers.created⟩
  constructor
  · have described := upsertSource_describes store now number
    rw [Operation.apply, answer, found] at described
    exact reads.isAsTold key (Option.some.inj described) number
  · intro old present oldKey
    obtain ⟨sameType, sameUrl⟩ := Prod.mk.inj oldKey
    have before := sound.sourceRowAt?_of_mem present
    rw [sameType, sameUrl] at before
    exact kept old before
  · intro old known
    obtain ⟨row, before, read⟩ := getSourceAt_some known
    exact (kept row before).unique (Source.Row.read_readsAs read).remembers
  · intro unknown
    have absent : store.sourceRowAt? draft.sourceType draft.url = none :=
      List.find?_eq_none.mpr fun old present has => unknown old present (hasKey_iff.mp has)
    rw [absent] at made
    subst made
    obtain ⟨new, created⟩ := Source.Row.ofDraft_remembers remembers
    refine ⟨new, created, fun old present => ?_⟩
    have used := sound.sourceIds.used old.id (List.mem_map_of_mem present)
    have next : source.id = store.lastSourceId + 1 := remembers.id
    omega
  · have confined := upsertSource_confined sound now draft
    rw [answer] at confined
    exact confined.others
  · exact putSource_items put
  · rw [remembers.id, soundLater.getSource_of_mem member, read]
  · unfold getSourceAt
    rw [found]
    dsimp only
    rw [read]
    rfl

/-! ### Several upserts -/

/-- A source that was there stays the same one, and an upsert decides what is said of it until the next
one at its address. -/
theorem last_upsert_describes (sound : Sound store) {row : Source.Row}
    (found : store.sourceRowAt? draft.sourceType draft.url = some row)
    (number : draft.credibility.isNaN = false) (now : Instant) (before : List Operation)
    {after : List Operation} (elsewhere : ∀ op ∈ after, ¬ op.Describes draft.sourceType draft.url) :
    ∃ row', ((before ++ .upsertSource now draft :: after).foldl Operation.apply store).sourceRowAt?
        draft.sourceType draft.url = some row' ∧
      row'.origin = row.origin ∧ row'.description = draft.description := by
  obtain ⟨-, grown⟩ := applyAll_sound sound (before ++ .upsertSource now draft :: after)
  obtain ⟨row', found', same⟩ := grown.sourceRowAt? found
  refine ⟨row', found', same, ?_⟩
  have described := upsertSource_describes (before.foldl Operation.apply store) now number
  rw [← applyAll_description _ elsewhere, ← List.foldl_cons, ← List.foldl_append, found'] at described
  exact Option.some.inj described

/-- After any writes, an upsert that succeeds refreshes the source at its address or adds one, and changes
nothing else; as long as times can be read, it succeeds for a score that is a number and a configuration
that survives, unless the source has too many failures. Of several upserts at one address the last one
decides, whatever is written in between. -/
theorem upsert_refreshes (refused : List String) (ops : List Operation) :
    let store := ops.foldl Operation.apply { Store.empty with refused }
    (∀ (now : Instant) (draft : Source.Draft) (later : Store) (source : Source),
        store.upsertSource now draft = (later, .ok source) → Upserted store later now draft source) ∧
      ((∀ op ∈ ops, op.IsDated) → ∀ (now : Instant) (draft : Source.Draft), now.HasFourDigitYear →
        draft.credibility.isNaN = false → draft.config.sorted.Survives →
        (∀ row, store.sourceRowAt? draft.sourceType draft.url = some row → row.errorCount < 2 ^ 32) →
        ∃ later source, store.upsertSource now draft = (later, .ok source)) ∧
      ∀ (now now' : Instant) (draft last : Source.Draft) (between after : List Operation),
        draft.credibility.isNaN = false → last.credibility.isNaN = false →
        last.sourceType = draft.sourceType → last.url = draft.url →
        (∀ op ∈ after, ¬ op.Describes draft.sourceType draft.url) →
        let first := (Operation.upsertSource now draft).apply store
        let final := (between ++ .upsertSource now' last :: after).foldl Operation.apply first
        ∃ row row', first.sourceRowAt? draft.sourceType draft.url = some row ∧
          final.sourceRowAt? draft.sourceType draft.url = some row' ∧ row'.origin = row.origin ∧
          row'.description = last.description ∧ ∀ source, row'.read = .ok source → source.IsAsTold last := by
  intro store
  have sound : Sound store := (applyAll_sound (new_sound refused) ops).1
  refine ⟨fun now draft later source done => upsertSource_upserted sound done, ?_, ?_⟩
  · intro dated now draft year number survives few
    have filed : IsFiled store := applyAll_isFiled (new_isFiled refused) dated
    have readable : (Json.parse? draft.config.sorted.render.toList).isSome = true :=
      Option.isSome_of_eq_some survives
    have fine := (filed.upsertSource_error?_eq_none_iff year).mpr ⟨number, readable, few⟩
    obtain ⟨source, answer⟩ := errorOf_eq_none.mp fine
    exact ⟨_, source, Prod.ext rfl answer⟩
  · intro now now' draft last between after number number' sameType sameUrl elsewhere first final
    obtain ⟨row, found, -⟩ := Option.map_eq_some_iff.mp (store.upsertSource_describes now number)
    rw [← sameType, ← sameUrl] at elsewhere found ⊢
    obtain ⟨row', found', same, described⟩ :=
      last_upsert_describes (apply_sound sound _).1 found number' now' between elsewhere
    have key := (sourceRowAt?_key found').2
    exact ⟨row, row', found, found', same, described, fun source read =>
      (Source.Row.read_readsAs read).isAsTold key described number'⟩

/-- A source under two names. -/
def wire : Source.Draft := ⟨"rss", "Wire", "http://f.example/rss", 0.5, none, none, .object [], true⟩

def renamedWire : Source.Draft := { wire with name := "Newswire", active := false }

/-- A store with a source that failed once. -/
def failedOnce : List Operation := [.upsertSource .epoch wire, .recordFailure 1 "timeout" .epoch]

theorem upsert_refreshes_failed_once :
    let store := failedOnce.foldl Operation.apply { Store.empty with refused := [] }
    let first := (Operation.upsertSource .epoch wire).apply store
    let again : List Operation := [.recordFailure 1 "timeout" .epoch, .upsertSource .epoch renamedWire]
    let final := again.foldl Operation.apply first
    (∃ later source, store.upsertSource .epoch renamedWire = (later, .ok source) ∧
      Upserted store later .epoch renamedWire source) ∧
      ∃ row row', first.sourceRowAt? "rss" "http://f.example/rss" = some row ∧
        final.sourceRowAt? "rss" "http://f.example/rss" = some row' ∧ row'.origin = row.origin ∧
        row'.description = renamedWire.description ∧
        ∀ source, row'.read = .ok source → source.IsAsTold renamedWire := by
  intro store first again final
  have year : Instant.epoch.HasFourDigitYear := by decide
  have dated : ∀ op ∈ failedOnce, op.IsDated := by
    simp only [failedOnce, List.forall_mem_cons, Operation.IsDated, year, true_and]
    exact List.forall_mem_nil _
  have number : renamedWire.credibility.isNaN = false := by decide
  have survives : renamedWire.config.sorted.Survives := by rfl
  have few : ∀ row, store.sourceRowAt? renamedWire.sourceType renamedWire.url = some row →
      row.errorCount < 2 ^ 32 := by
    rintro _ ⟨⟩
    decide
  obtain ⟨refreshes, succeeds, decides⟩ := upsert_refreshes [] failedOnce
  obtain ⟨later, source, done⟩ := succeeds dated .epoch renamedWire year number survives few
  exact ⟨⟨later, source, done, refreshes _ _ later source done⟩,
    decides .epoch .epoch wire renamedWire [.recordFailure 1 "timeout" .epoch] [] (by decide) number rfl rfl
      (List.forall_mem_nil _)⟩

end Store

end Harvest
