import Harvest.Text.Blank
import Mathlib.Data.List.Basic

/-!
Characters in ASCII. What holds of the first 128 characters is decided one by one.
-/

namespace Harvest.Text

theorem forall_ascii {P : Char → Prop} (all : ∀ n < 128, P (Char.ofNat n)) {c : Char} (ascii : c.toNat < 128) :
    P c := Char.ofNat_toNat c ▸ all c.toNat ascii

/-- What does not tell the case of letters in ASCII tells it nowhere. -/
theorem lowerAscii_invariant {α : Type} {f : Char → α}
    (ascii : ∀ n < 128, f (lowerAscii (Char.ofNat n)) = f (Char.ofNat n)) (c : Char) : f (lowerAscii c) = f c := by
  by_cases capital : 'A' ≤ c ∧ c ≤ 'Z'
  · have small : c.toNat < 128 := Nat.lt_of_le_of_lt (show c.toNat ≤ 90 from capital.2) (by decide)
    exact forall_ascii (P := fun c => f (lowerAscii c) = f c) ascii small
  · rw [show lowerAscii c = c from if_neg capital]

/-- Nothing becomes a mark. -/
theorem lowerAscii_eq_iff {mark : Char} (ascii : ∀ n < 128, lowerAscii (Char.ofNat n) = mark ↔ Char.ofNat n = mark)
    (c : Char) : lowerAscii c = mark ↔ c = mark := by
  have same : decide (lowerAscii c = mark) = decide (c = mark) :=
    lowerAscii_invariant (f := fun c => decide (c = mark)) (fun n small => decide_eq_decide.mpr (ascii n small)) c
  exact decide_eq_decide.mp same

theorem lowerAscii_lt {c : Char} (capital : lowerAscii c ≠ c) : (lowerAscii c).toNat < 128 := by
  have letter : 'A' ≤ c ∧ c ≤ 'Z' := Classical.not_not.mp fun other => capital (if_neg other)
  have small : c.toNat < 128 := Nat.lt_of_le_of_lt (show c.toNat ≤ 90 from letter.2) (by decide)
  exact forall_ascii (P := fun c => (lowerAscii c).toNat < 128) (by decide) small

theorem lowerAscii_idem (c : Char) : lowerAscii (lowerAscii c) = lowerAscii c :=
  lowerAscii_invariant (by decide) c

theorem map_lowerAscii_of {text : List Char} (lower : ∀ c ∈ text, lowerAscii c = c) : text.map lowerAscii = text :=
  (List.map_congr_left lower).trans (List.map_id' _)

theorem map_lowerAscii_idem (text : List Char) : (text.map lowerAscii).map lowerAscii = text.map lowerAscii := by
  refine map_lowerAscii_of fun c member => ?_
  obtain ⟨c, -, rfl⟩ := List.mem_map.mp member
  exact lowerAscii_idem c

theorem takeWhile_lower {p : Char → Bool} (alike : ∀ c, p (lowerAscii c) = p c) (text : List Char) :
    (text.map lowerAscii).takeWhile p = (text.takeWhile p).map lowerAscii := by
  rw [List.takeWhile_map]
  exact congrArg (fun q => (text.takeWhile q).map lowerAscii) (funext alike)

theorem dropWhile_lower {p : Char → Bool} (alike : ∀ c, p (lowerAscii c) = p c) (text : List Char) :
    (text.map lowerAscii).dropWhile p = (text.dropWhile p).map lowerAscii := by
  rw [List.dropWhile_map]
  exact congrArg (fun q => (text.dropWhile q).map lowerAscii) (funext alike)

/-! ### Characters that show -/

/-- A character in ASCII that is neither blank nor a control character. -/
def IsVisible (c : Char) : Prop := 32 < c.toNat ∧ c.toNat < 127

instance (c : Char) : Decidable (IsVisible c) := inferInstanceAs (Decidable (_ ∧ _))

theorem IsVisible.notBlank {c : Char} (visible : IsVisible c) : isBlank c = false :=
  forall_ascii (P := fun c => IsVisible c → isBlank c = false) (by decide) (Nat.lt_trans visible.2 (by decide)) visible

theorem dropWhile_of_none {text : List Char} {p : Char → Bool} (none : ∀ c ∈ text, p c = false) :
    text.dropWhile p = text := by
  cases text with
  | nil => rfl
  | cons c rest => rw [List.dropWhile_cons, none c List.mem_cons_self, if_neg Bool.false_ne_true]

/-- A stretch ends in front of the first character that does not belong to it. -/
theorem span_append {p : Char → Bool} {front : List Char} (inside : ∀ c ∈ front, p c = true) (back : List Char)
    (ends : back.head?.all (!p ·) = true) :
    (front ++ back).takeWhile p = front ∧ (front ++ back).dropWhile p = back := by
  rw [List.takeWhile_append_of_pos inside, List.dropWhile_append_of_pos inside]
  cases back with
  | nil => exact ⟨List.append_nil _, rfl⟩
  | cons c rest =>
    have stops : p c = false := by simpa using ends
    rw [List.takeWhile_cons, List.dropWhile_cons, stops]
    exact ⟨List.append_nil _, rfl⟩

theorem trim_of_visible {text : String} (visible : ∀ c ∈ text.toList, IsVisible c) : trim text = text := by
  have solid (c : Char) (member : c ∈ text.toList) : isBlank c = false := (visible c member).notBlank
  unfold trim trimEnd trimStart
  rw [dropWhile_of_none solid, dropWhile_of_none fun c member => solid c (List.mem_reverse.mp member),
    List.reverse_reverse, String.ofList_toList]

end Harvest.Text
