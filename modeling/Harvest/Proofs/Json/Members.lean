import Harvest.Json.Basic
import Mathlib.Data.String.Basic

/-!
Members of an object by their names. A member that is put in its place is what the object has under its name,
and changes nothing under other names. A document whose members are in order stays as it is when it is put in
order.
-/

namespace Harvest.Json

/-- Members in byte order of their names, one of each name. -/
def InOrder (members : List (String × Json)) : Prop := members.Pairwise (·.1 < ·.1)

/-- Puts members in their places one after the other. -/
def insertMembers (done members : List (String × Json)) : List (String × Json) :=
  members.foldl (fun done m => insertMember m.1 m.2 done) done

theorem insertMembers_map (value : String × Json → Json) (done members : List (String × Json)) :
    insertMembers done (members.map fun m => (m.1, value m)) =
      members.foldl (fun done m => insertMember m.1 (value m) done) done :=
  List.foldl_map

/-! ### Members by name -/

theorem get?_append (key : String) (front back : List (String × Json)) :
    (object (front ++ back)).get? key = ((object back).get? key).or ((object front).get? key) := by
  rw [get?, get?, get?, List.reverse_append, List.find?_append, Option.map_or]

theorem get?_singleton (key name : String) (value : Json) :
    (object [(name, value)]).get? key = if name = key then some value else none := by
  by_cases same : name = key
  · simp [get?, same]
  · simp [get?, same]

theorem get?_cons (key name : String) (value : Json) (rest : List (String × Json)) :
    (object ((name, value) :: rest)).get? key =
      ((object rest).get? key).or (if name = key then some value else none) := by
  rw [← List.singleton_append, get?_append, get?_singleton]

theorem get?_none_of_absent {key : String} {members : List (String × Json)} (absent : ∀ m ∈ members, m.1 ≠ key) :
    (object members).get? key = none := by
  rw [get?, Option.map_eq_none_iff, List.find?_eq_none]
  intro m member
  simpa using absent m (List.mem_reverse.mp member)

/-! ### Putting a member in its place -/

theorem mem_insertMember {name : String} {value : Json} {members : List (String × Json)} {m : String × Json}
    (member : m ∈ insertMember name value members) : m = (name, value) ∨ m ∈ members := by
  induction members with
  | nil => exact Or.inl (List.mem_singleton.mp member)
  | cons head rest ih =>
    rw [insertMember] at member
    split at member
    · exact List.mem_cons.mp member
    split at member
    · rcases List.mem_cons.mp member with new | old
      · exact Or.inl new
      · exact Or.inr (List.mem_cons_of_mem _ old)
    · rcases List.mem_cons.mp member with first | later
      · exact Or.inr (first ▸ List.mem_cons_self)
      · exact (ih later).imp_right (List.mem_cons_of_mem _)

theorem InOrder.insertMember {members : List (String × Json)} (order : InOrder members) (name : String)
    (value : Json) : InOrder (insertMember name value members) := by
  induction members with
  | nil => exact List.pairwise_singleton _ _
  | cons head rest ih =>
    obtain ⟨n, v⟩ := head
    obtain ⟨first, later⟩ := List.pairwise_cons.mp order
    rw [Json.insertMember]
    split
    next less =>
      refine List.pairwise_cons.mpr ⟨List.forall_mem_cons.mpr ⟨less, fun m member => ?_⟩, order⟩
      exact lt_trans less (first m member)
    split
    next same =>
      subst same
      exact List.pairwise_cons.mpr ⟨first, later⟩
    next differ =>
      refine List.pairwise_cons.mpr ⟨fun m member => ?_, ih later⟩
      rcases mem_insertMember member with rfl | old
      · exact lt_of_le_of_ne (not_lt.mp ‹_›) (Ne.symm differ)
      · exact first m old

theorem get?_insertMember {members : List (String × Json)} (order : InOrder members) (name : String)
    (value : Json) (key : String) : (object (insertMember name value members)).get? key =
      if name = key then some value else (object members).get? key := by
  induction members with
  | nil => exact get?_singleton key name value
  | cons head rest ih =>
    obtain ⟨n, v⟩ := head
    obtain ⟨first, later⟩ := List.pairwise_cons.mp order
    -- Under a name no later than the first there is nothing behind the first.
    have behind (early : key ≤ n) : (object rest).get? key = none :=
      get?_none_of_absent fun m member => ne_of_gt (lt_of_le_of_lt early (first m member))
    rw [insertMember]
    split
    next less =>
      by_cases same : name = key
      · subst same
        simp [get?_cons, behind (le_of_lt less), ne_of_gt less]
      · rw [get?_cons, if_neg same, if_neg same, Option.or_none]
    split
    next here =>
      subst here
      by_cases same : name = key
      · subst same
        simp [get?_cons, behind (le_refl _)]
      · simp [get?_cons, same]
    next elsewhere =>
      rw [get?_cons, get?_cons, ih later]
      split
      · rfl
      · rfl

theorem InOrder.insertMembers {done : List (String × Json)} (order : InOrder done)
    (members : List (String × Json)) : InOrder (insertMembers done members) := by
  induction members generalizing done with
  | nil => exact order
  | cons m rest ih => exact ih (order.insertMember m.1 m.2)

/-- Of members put in their places one after the other, the last of a name counts. -/
theorem get?_insertMembers {done : List (String × Json)} (order : InOrder done) (members : List (String × Json))
    (key : String) : (object (insertMembers done members)).get? key =
      ((object members).get? key).or ((object done).get? key) := by
  induction members generalizing done with
  | nil => rfl
  | cons m rest ih =>
    have all := ih (order.insertMember m.1 m.2)
    rw [get?_insertMember order] at all
    rw [insertMembers, List.foldl_cons, ← insertMembers, all, get?_cons, Option.or_assoc]
    congr 1
    split
    · rfl
    · rfl

/-! ### Documents in order -/

theorem mem_insertMembers {done members : List (String × Json)} {m : String × Json}
    (member : m ∈ insertMembers done members) : m ∈ done ∨ m ∈ members := by
  induction members generalizing done with
  | nil => exact Or.inl member
  | cons first rest ih =>
    rcases ih member with early | late
    · rcases mem_insertMember early with rfl | old
      · exact Or.inr List.mem_cons_self
      · exact Or.inl old
    · exact Or.inr (List.mem_cons_of_mem _ late)

private theorem insertMember_last {done : List (String × Json)} {name : String} (value : Json)
    (last : ∀ m ∈ done, m.1 < name) : insertMember name value done = done ++ [(name, value)] := by
  induction done with
  | nil => rfl
  | cons head rest ih =>
    obtain ⟨less, later⟩ := List.forall_mem_cons.mp last
    rw [insertMember, if_neg (not_lt.mpr (le_of_lt less)), if_neg (ne_of_gt less), ih later]
    rfl

/-- Members that are in order are put one behind the other. -/
theorem insertMembers_inOrder {done members : List (String × Json)} (order : InOrder (done ++ members)) :
    insertMembers done members = done ++ members := by
  induction members generalizing done with
  | nil => exact (List.append_nil done).symm
  | cons m rest ih =>
    have last : ∀ other ∈ done, other.1 < m.1 := fun other member =>
      (List.pairwise_append.mp order).2.2 other member m List.mem_cons_self
    have onward : InOrder (done ++ [m] ++ rest) := by rwa [List.append_assoc]
    rw [insertMembers, List.foldl_cons, insertMember_last m.2 last]
    exact (ih onward).trans (List.append_assoc done [m] rest)

theorem sortedMembers_eq (done members : List (String × Json)) :
    sortedMembers done members = insertMembers done (members.map fun m => (m.1, m.2.sorted)) := by
  induction members generalizing done with
  | nil => rfl
  | cons m rest ih =>
    rw [sortedMembers, ih]
    rfl

private theorem sortedMembers_fixed {members : List (String × Json)} (order : InOrder members)
    (fixed : ∀ m ∈ members, m.2.sorted = m.2) : sortedMembers [] members = members := by
  have same : (members.map fun m => (m.1, m.2.sorted)) = members.map id :=
    List.map_congr_left fun m member => Prod.ext rfl (fixed m member)
  rw [sortedMembers_eq, same, List.map_id]
  exact insertMembers_inOrder order

mutual

/-- Putting a document in order once more changes nothing. -/
theorem sorted_sorted : (json : Json) → json.sorted.sorted = json.sorted
  | null | bool _ | int _ | real _ | string _ => rfl
  | array items => by rw [sorted, sorted, sortedItems_sorted items]
  | object members => by
    have order : InOrder (sortedMembers [] members) := by
      rw [sortedMembers_eq]
      exact InOrder.insertMembers List.Pairwise.nil _
    rw [sorted, sorted]
    refine congrArg object (sortedMembers_fixed order fun m member => ?_)
    rw [sortedMembers_eq] at member
    obtain ⟨old, present, rfl⟩ := List.mem_map.mp ((mem_insertMembers member).resolve_left List.not_mem_nil)
    exact sorted_values members old present

theorem sortedItems_sorted : (items : List Json) → sortedItems (sortedItems items) = sortedItems items
  | [] => rfl
  | item :: rest => by rw [sortedItems, sortedItems, sorted_sorted item, sortedItems_sorted rest]

theorem sorted_values : (members : List (String × Json)) → ∀ m ∈ members, m.2.sorted.sorted = m.2.sorted
  | (_, value) :: rest => List.forall_mem_cons.mpr ⟨sorted_sorted value, sorted_values rest⟩
  | [] => fun _ => nofun

end

end Harvest.Json
