import Harvest.Proofs.Store.History

/-!
What writes leave alone. Writes to sources change no item, writes to items change no source, and
writes to one source do not show at the address of another.
-/

namespace Harvest.Store

theorem updateSource_frame {store later : Store} {id : Int} {change : Source.Row → Source.Row}
    (ok : store.updateSource id change = .ok later) : later = { store with sources := later.sources } := by
  unfold updateSource at ok
  split at ok
  · cases ok
    rfl
  · cases ok

theorem updateSource_items {store later : Store} {id : Int} {change : Source.Row → Source.Row}
    (ok : store.updateSource id change = .ok later) : later.items = store.items := by
  rw [updateSource_frame ok]

theorem recordFailure_items (store : Store) (id : Int) (error : String) (now : Instant) :
    ((store.recordFailure id error now).toOption.getD store).items = store.items := by
  cases done : store.recordFailure id error now with
  | error e => rfl
  | ok later => exact updateSource_items done

theorem putSource_frame {store later : Store} {now : Instant} {draft : Source.Draft}
    (ok : store.putSource now draft = .ok later) :
    later = { store with sources := later.sources, lastSourceId := store.lastSourceId + 1 } := by
  unfold putSource at ok
  split at ok
  · cases ok
  dsimp only at ok
  split at ok
  · cases ok
    rfl
  · cases ok
    rfl

theorem putSource_items {store later : Store} {now : Instant} {draft : Source.Draft}
    (ok : store.putSource now draft = .ok later) : later.items = store.items := by
  rw [putSource_frame ok]

theorem upsertSource_items (store : Store) (now : Instant) (draft : Source.Draft) :
    (store.upsertSource now draft).1.items = store.items := by
  unfold upsertSource
  split
  · rfl
  next put => exact putSource_items put

theorem insertItem_ok {store later : Store} {draft : Item.Draft} {id : Int}
    (ok : store.insertItem draft = .ok (id, later)) : id = store.lastItemId + 1 ∧
      later = { store with items := store.items ++ [Item.Row.ofDraft id draft], lastItemId := id } := by
  unfold insertItem at ok
  split at ok
  · cases ok
  split at ok
  · cases ok
  split at ok
  · cases ok
    exact ⟨rfl, rfl⟩
  · cases ok

/-- A write leaves the items as they are, or adds one behind them. -/
theorem apply_items_cases (store : Store) (op : Operation) : (op.apply store).items = store.items ∨
    ∃ draft id, op = .insertItem draft ∧
      (op.apply store).items = store.items ++ [Item.Row.ofDraft id draft] := by
  cases op with
  | upsertSource now draft => exact Or.inl (store.upsertSource_items now draft)
  | recordSuccess id windowEnd fetchedAt =>
    left
    cases done : store.recordSuccess id windowEnd fetchedAt with
    | error e => simp [Operation.apply, done, Except.toOption]
    | ok later => simp [Operation.apply, done, Except.toOption, updateSource_items done]
  | recordFailure id error now => exact Or.inl (store.recordFailure_items id error now)
  | insertItem draft =>
    cases done : store.insertItem draft with
    | error e => simp [Operation.apply, done, Except.toOption]
    | ok answer =>
      obtain ⟨id, later⟩ := answer
      obtain ⟨-, rfl⟩ := insertItem_ok done
      exact Or.inr ⟨draft, id, rfl, by simp [Operation.apply, done, Except.toOption]⟩

/-- No write takes an item away or changes one. -/
theorem apply_items (store : Store) (op : Operation) : store.items <+: (op.apply store).items := by
  rcases store.apply_items_cases op with same | ⟨draft, id, -, added⟩
  · rw [same]
  · rw [added]
    exact List.prefix_append _ _

theorem applyAll_items (store : Store) (ops : List Operation) :
    store.items <+: (ops.foldl Operation.apply store).items := by
  induction ops generalizing store with
  | nil => exact List.prefix_rfl
  | cons op rest ih => exact (store.apply_items op).trans (ih (op.apply store))

/-! ### Refusals -/

theorem updateSource_refused {store later : Store} {id : Int} {change : Source.Row → Source.Row}
    (ok : store.updateSource id change = .ok later) : later.refused = store.refused := by
  unfold updateSource at ok
  split at ok
  · cases ok
    rfl
  · cases ok

theorem upsertSource_refused (store : Store) (now : Instant) (draft : Source.Draft) :
    (store.upsertSource now draft).1.refused = store.refused := by
  unfold upsertSource putSource
  split
  · rfl
  next put =>
    split at put
    · cases put
    dsimp only at put
    split at put
    · cases put
      rfl
    · cases put
      rfl

/-- What is refused is settled once and for all. -/
theorem apply_refused (store : Store) (op : Operation) : (op.apply store).refused = store.refused := by
  cases op with
  | upsertSource now draft => exact store.upsertSource_refused now draft
  | recordSuccess id windowEnd fetchedAt =>
    cases done : store.recordSuccess id windowEnd fetchedAt with
    | error e => simp [Operation.apply, done, Except.toOption]
    | ok later => simp [Operation.apply, done, Except.toOption, updateSource_refused done]
  | recordFailure id error now =>
    cases done : store.recordFailure id error now with
    | error e => simp [Operation.apply, done, Except.toOption]
    | ok later => simp [Operation.apply, done, Except.toOption, updateSource_refused done]
  | insertItem draft =>
    cases done : store.insertItem draft with
    | error e => simp [Operation.apply, done, Except.toOption]
    | ok answer =>
      obtain ⟨id, later⟩ := answer
      obtain ⟨-, rfl⟩ := insertItem_ok done
      simp [Operation.apply, done, Except.toOption]

theorem refuses_eq {store later : Store} (same : later.refused = store.refused) (url : String) :
    later.refuses url = store.refuses url := by
  unfold refuses
  rw [same]

/-! ### Rows by their address -/

private theorem find?_changed {rows : List Source.Row} {sourceType url : String}
    {change : Source.Row → Source.Row}
    (sameKey : ∀ row, (change row).key = row.key) (p : Source.Row → Bool) :
    (rows.map fun row => if p row then change row else row).find? (·.hasKey sourceType url) =
      (rows.find? (·.hasKey sourceType url)).map fun row => if p row then change row else row := by
  rw [List.find?_map]
  congr 2
  funext row
  have same : (if p row then change row else row).key = row.key := by
    split
    · exact sameKey row
    · rfl
  rw [Bool.eq_iff_iff, Function.comp, hasKey_iff, hasKey_iff, same]

theorem updateSource_at {store later : Store} {id : Int} {change : Source.Row → Source.Row}
    (sameKey : ∀ row, (change row).key = row.key) (ok : store.updateSource id change = .ok later)
    (sourceType url : String) : later.sourceRowAt? sourceType url =
      (store.sourceRowAt? sourceType url).map fun row => if row.id == id then change row else row := by
  unfold updateSource at ok
  split at ok
  · cases ok
    exact find?_changed sameKey _
  · cases ok

theorem updateSource_isOk {store : Store} {row : Source.Row} (member : row ∈ store.sources)
    (change : Source.Row → Source.Row) : ∃ later, store.updateSource row.id change = .ok later := by
  unfold updateSource
  rw [if_pos (List.any_eq_true.mpr ⟨row, member, beq_self_eq_true row.id⟩)]
  exact ⟨_, rfl⟩

theorem sourceRowAt?_key {store : Store} {sourceType url : String} {row : Source.Row}
    (found : store.sourceRowAt? sourceType url = some row) :
    row ∈ store.sources ∧ row.key = (sourceType, url) :=
  ⟨List.mem_of_find?_eq_some found, hasKey_iff.mp (List.find?_some found)⟩

/-- A row is found by what it shares with no other. -/
theorem find?_of_nodup {α κ : Type} {key : α → κ} {rows : List α} (distinct : (rows.map key).Nodup)
    {row : α} (member : row ∈ rows) {p : α → Bool} (sees : ∀ other, p other = true ↔ key other = key row) :
    rows.find? p = some row := by
  cases found : rows.find? p with
  | none => exact absurd ((sees row).mpr rfl) (List.find?_eq_none.mp found row member)
  | some other =>
    have same := (sees other).mp (List.find?_some found)
    rw [List.inj_on_of_nodup_map distinct (List.mem_of_find?_eq_some found) member same]

theorem Sound.sourceRowAt?_of_mem {store : Store} (sound : Sound store) {row : Source.Row}
    (member : row ∈ store.sources) : store.sourceRowAt? row.sourceType row.url = some row :=
  find?_of_nodup sound.sourceKeys member fun _ => hasKey_iff

/-- What a refreshed source shows at its own address and at all others. -/
theorem putSource_at {store later : Store} {now : Instant} {draft : Source.Draft}
    (ok : store.putSource now draft = .ok later) :
    later.sourceRowAt? draft.sourceType draft.url =
      some (match store.sourceRowAt? draft.sourceType draft.url with
        | some row => row.refresh now draft
        | none => Source.Row.ofDraft (store.lastSourceId + 1) now draft) ∧
    ∀ sourceType url, (sourceType, url) ≠ (draft.sourceType, draft.url) →
      later.sourceRowAt? sourceType url = store.sourceRowAt? sourceType url := by
  have sameKey : ∀ row : Source.Row, (row.refresh now draft).key = row.key := fun _ => rfl
  unfold putSource at ok
  split at ok
  · cases ok
  dsimp only at ok
  split at ok
  next met =>
    cases ok
    unfold sourceRowAt?
    refine ⟨?_, fun sourceType url differ => ?_⟩
    · rw [find?_changed sameKey]
      cases found : store.sources.find? (·.hasKey draft.sourceType draft.url) with
      | none =>
        obtain ⟨row, member, has⟩ := List.any_eq_true.mp met
        exact absurd has (List.find?_eq_none.mp found row member)
      | some row =>
        have has := List.find?_some found
        rw [Option.map_some, if_pos has]
    · rw [find?_changed sameKey]
      cases found : store.sources.find? (·.hasKey sourceType url) with
      | none => rfl
      | some row =>
        have key := hasKey_iff.mp (List.find?_some found)
        rw [Option.map_some, if_neg fun has => differ (key.symm.trans (hasKey_iff.mp has))]
  next unmet =>
    cases ok
    have absent : store.sources.find? (·.hasKey draft.sourceType draft.url) = none :=
      List.find?_eq_none.mpr fun row member has => unmet (List.any_eq_true.mpr ⟨row, member, has⟩)
    unfold sourceRowAt?
    refine ⟨?_, fun sourceType url differ => ?_⟩
    · rw [List.find?_append, absent, Option.none_or]
      simp [Source.Row.hasKey, Source.Row.ofDraft]
    · have other : (Source.Row.ofDraft (store.lastSourceId + 1) now draft).hasKey sourceType url = false := by
        rw [Bool.eq_false_iff]
        exact fun has => differ (hasKey_iff.mp has).symm
      rw [List.find?_append]
      simp [other]

/-- An upsert refreshes or adds a row, and gives it back as far as it can be read. -/
theorem upsertSource_spec (store : Store) (now : Instant) {draft : Source.Draft}
    (score : draft.credibility.isNaN = false) : ∃ later row, store.putSource now draft = .ok later ∧
      later.sourceRowAt? draft.sourceType draft.url = some row ∧
      row = (match store.sourceRowAt? draft.sourceType draft.url with
        | some row => row.refresh now draft
        | none => Source.Row.ofDraft (store.lastSourceId + 1) now draft) ∧
      store.upsertSource now draft = (later, row.read) := by
  obtain ⟨later, put⟩ : ∃ later, store.putSource now draft = .ok later := by
    unfold putSource
    rw [score, if_neg (by decide)]
    dsimp only
    split
    · exact ⟨_, rfl⟩
    · exact ⟨_, rfl⟩
  refine ⟨later, _, put, (putSource_at put).1, rfl, ?_⟩
  unfold upsertSource getSourceAt
  rw [put]
  dsimp only
  rw [(putSource_at put).1]
  dsimp only
  generalize (match store.sourceRowAt? draft.sourceType draft.url with
    | some row => row.refresh now draft
    | none => Source.Row.ofDraft (store.lastSourceId + 1) now draft).read = outcome
  cases outcome with
  | error e => rfl
  | ok source => rfl

end Harvest.Store
