import Harvest.Proofs.Store.Frame

/-!
Writes that are confined to one source. A note of a run and an upsert write to the source at one address
only: it stays the same source, and all rows of other sources stay as they are.
-/

namespace Harvest.Store

variable {a b c store later : Store} {sourceType url : String}

/-- Only the source at an address was written to, and only items of its own were added. -/
structure Confined (sourceType url : String) (before after : Store) : Prop where
  others : (after.sources.filter fun row => !row.hasKey sourceType url) =
    before.sources.filter fun row => !row.hasKey sourceType url
  source : ∀ row, before.sourceRowAt? sourceType url = some row →
    ∃ now, after.sourceRowAt? sourceType url = some now ∧ now.origin = row.origin
  items : ∃ rows, after.items = before.items ++ rows ∧
    ∀ item ∈ rows, ∃ row, after.sourceRowAt? sourceType url = some row ∧ item.sourceId = row.id

namespace Confined

theorem refl (store : Store) : Confined sourceType url store store :=
  ⟨rfl, fun row found => ⟨row, found, rfl⟩, [], (List.append_nil _).symm, fun _ => nofun⟩

theorem trans (first : Confined sourceType url a b) (second : Confined sourceType url b c) :
    Confined sourceType url a c := by
  refine ⟨second.others.trans first.others, fun row found => ?_, ?_⟩
  · obtain ⟨middle, found, origin⟩ := first.source row found
    obtain ⟨now, found, origin'⟩ := second.source middle found
    exact ⟨now, found, origin'.trans origin⟩
  · obtain ⟨rows, items, owned⟩ := first.items
    obtain ⟨rows', items', owned'⟩ := second.items
    refine ⟨rows ++ rows', by rw [items', items, List.append_assoc], fun item member => ?_⟩
    rcases List.mem_append.mp member with old | new
    · obtain ⟨row, found, owner⟩ := owned item old
      obtain ⟨now, found, origin⟩ := second.source row found
      exact ⟨now, found, owner.trans (congrArg (·.1) origin).symm⟩
    · exact owned' item new

/-- Elsewhere nothing is to be seen of the writes. -/
theorem sourceRowAt?_eq (confined : Confined sourceType url a b) {otherType other : String}
    (differ : (otherType, other) ≠ (sourceType, url)) :
    b.sourceRowAt? otherType other = a.sourceRowAt? otherType other := by
  have elsewhere : ∀ row : Source.Row, row.hasKey otherType other = true →
      (!row.hasKey sourceType url) = true := by
    intro row has
    rw [Bool.not_eq_true', Bool.eq_false_iff]
    exact fun here => differ ((hasKey_iff.mp has).symm.trans (hasKey_iff.mp here))
  have among : ∀ rows : List Source.Row, rows.find? (·.hasKey otherType other) =
      (rows.filter fun row => !row.hasKey sourceType url).find? (·.hasKey otherType other) := by
    intro rows
    rw [List.find?_filter]
    congr 1
    funext row
    cases has : row.hasKey otherType other with
    | false => simp
    | true => simp [elsewhere row has]
  unfold sourceRowAt?
  rw [among, confined.others, ← among]

end Confined

/-! ### The single writes -/

theorem Extends.sourceRowAt? (grown : Extends a b) {row : Source.Row}
    (found : a.sourceRowAt? sourceType url = some row) :
    ∃ now, b.sourceRowAt? sourceType url = some now ∧ now.origin = row.origin := by
  have byOrigin : ∀ store : Store, (store.sourceRowAt? sourceType url).map Source.Row.origin =
      (store.sources.map Source.Row.origin).find? fun o => o.2.1 == sourceType && o.2.2.1 == url := by
    intro store
    rw [List.find?_map]
    rfl
  have known := (byOrigin a).symm.trans (congrArg (Option.map Source.Row.origin) found)
  have kept := (byOrigin b).trans (grown.sources.find?_eq_some known)
  exact Option.map_eq_some_iff.mp kept

private theorem filter_changed {rows : List Source.Row} {p here : Source.Row → Bool}
    {change : Source.Row → Source.Row} (stays : ∀ row, here (change row) = here row)
    (within : ∀ row ∈ rows, p row = true → here row = true) :
    ((rows.map fun row => if p row then change row else row).filter fun row => !here row) =
      rows.filter fun row => !here row := by
  induction rows with
  | nil => rfl
  | cons first rest ih =>
    have tail := ih fun row member => within row (List.mem_cons_of_mem _ member)
    rw [List.map_cons, List.filter_cons, List.filter_cons, tail]
    by_cases changed : p first = true
    · have inside := within first List.mem_cons_self changed
      simp [changed, stays, inside]
    · simp [changed]

theorem Sound.source_eq (sound : store.Sound) {row other : Source.Row} (member : row ∈ store.sources)
    (present : other ∈ store.sources) (same : other.id = row.id) : other = row :=
  List.inj_on_of_nodup_map sound.sourceIds.nodup present member same

theorem updateSource_confined (sound : store.Sound) {row : Source.Row}
    (found : store.sourceRowAt? sourceType url = some row) {change : Source.Row → Source.Row}
    (unseen : ∀ row, (change row).origin = row.origin) (ok : store.updateSource row.id change = .ok later) :
    Confined sourceType url store later := by
  obtain ⟨member, key⟩ := sourceRowAt?_key found
  have grown := (updateSource_sound sound unseen ok).2
  have items := updateSource_items ok
  refine ⟨?_, fun row found => grown.sourceRowAt? found, [], by rw [items, List.append_nil], fun _ => nofun⟩
  unfold updateSource at ok
  split at ok
  · cases ok
    refine filter_changed (fun other => ?_) fun other present same => ?_
    · have keys : (change other).key = other.key := congrArg (fun o => (o.2.1, o.2.2.1)) (unseen other)
      rw [Bool.eq_iff_iff, hasKey_iff, hasKey_iff, keys]
    · rw [sound.source_eq member present (eq_of_beq same)]
      exact hasKey_iff.mpr key
  · cases ok

theorem upsertSource_confined (sound : store.Sound) (now : Instant) (draft : Source.Draft) :
    Confined draft.sourceType draft.url store (store.upsertSource now draft).1 := by
  have grown := (apply_sound sound (.upsertSource now draft)).2
  have items := upsertSource_items store now draft
  refine ⟨?_, fun row found => grown.sourceRowAt? found, [], by rw [items, List.append_nil], fun _ => nofun⟩
  unfold upsertSource
  split
  · rfl
  next later put =>
    unfold putSource at put
    split at put
    · cases put
    dsimp only at put
    split at put
    · cases put
      exact filter_changed (fun _ => rfl) fun _ _ same => same
    · cases put
      have here : (Source.Row.ofDraft (store.lastSourceId + 1) now draft).hasKey draft.sourceType draft.url =
          true := hasKey_iff.mpr rfl
      rw [List.filter_append, List.filter_cons, here]
      exact List.append_nil _

end Harvest.Store
