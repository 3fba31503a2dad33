import Harvest.Url.Percent
import Mathlib.Data.List.Basic

/-!
Percent escapes: which characters an encoded text holds, and the texts that need no encoding or decoding.
-/

namespace Harvest.Url.Percent

/-- A character of an escape. -/
def InEscape (c : Char) : Prop := c = '%' ∨ ∃ d < 16, c = hexDigit d

theorem mem_encode {inSet : Char → Bool} {text : List Char} {c : Char} (member : c ∈ encode inSet text) :
    (c ∈ text ∧ c.toNat < 128 ∧ inSet c = false) ∨ InEscape c := by
  obtain ⟨original, inside, member⟩ := List.mem_flatMap.mp member
  unfold encodeChar at member
  split at member
  · obtain ⟨byte, -, member⟩ := List.mem_flatMap.mp member
    have small : byte.toNat < 256 := byte.toNat_lt
    simp only [encodeByte, List.mem_cons, List.not_mem_nil, or_false] at member
    rcases member with is | is | is
    · exact Or.inr (Or.inl is)
    · exact Or.inr (Or.inr ⟨_, by omega, is⟩)
    · exact Or.inr (Or.inr ⟨_, by omega, is⟩)
  next plain =>
    cases List.mem_singleton.mp member
    simp only [Bool.or_eq_true, decide_eq_true_eq, not_or, Bool.not_eq_true] at plain
    exact Or.inl ⟨inside, Nat.lt_of_not_le plain.1, plain.2⟩

private theorem bytes_cons (c : Char) : ∃ byte more, Text.Utf8.encodeChar c = byte :: more := by
  unfold Text.Utf8.encodeChar
  dsimp only
  split
  · exact ⟨_, _, rfl⟩
  · split
    · exact ⟨_, _, rfl⟩
    · split
      · exact ⟨_, _, rfl⟩
      · exact ⟨_, _, rfl⟩

theorem encode_eq_nil {inSet : Char → Bool} {text : List Char} (none : encode inSet text = []) : text = [] := by
  cases text with
  | nil => rfl
  | cons c rest =>
    have single : encodeChar inSet c = [] := (List.append_eq_nil_iff.mp none).1
    unfold encodeChar at single
    split at single
    · obtain ⟨byte, more, is⟩ := bytes_cons c
      rw [is] at single
      cases single
    · cases single

/-- What needs no escape stays as it is. -/
theorem encode_of_plain {inSet : Char → Bool} {text : List Char}
    (plain : ∀ c ∈ text, c.toNat < 128 ∧ inSet c = false) : encode inSet text = text := by
  induction text with
  | nil => rfl
  | cons c rest ih =>
    have ⟨⟨ascii, outside⟩, later⟩ := List.forall_mem_cons.mp plain
    have single : encodeChar inSet c = [c] := if_neg (by simp [outside, ascii])
    rw [encode, List.flatMap_cons, single]
    exact congrArg (c :: ·) (ih later)

/-- A text without escapes. -/
theorem decode_of_plain {text : List Char} (plain : '%' ∉ text) : decode text = Text.Utf8.encode text := by
  induction text with
  | nil => rfl
  | cons c rest ih =>
    have letter : c ≠ '%' := fun is => plain (is ▸ List.mem_cons_self)
    rw [decode, ih fun member => plain (List.mem_cons_of_mem _ member)]
    · rfl
    · intro a b more is
      exact absurd is letter

end Harvest.Url.Percent
