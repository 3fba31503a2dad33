import Harvest.Text.Normal.Data

/-!
Canonical composition: characters are taken apart, marks are put in order of their classes, and
pairs are put together again.
-/

namespace Harvest.Text.Normal

/-- The least code point of a mark. -/
def firstMark : Nat := 0x300

/-- Zero for all characters but marks. -/
def combiningClass (c : Char) : Nat :=
  if c.toNat < firstMark then 0
  else match combiningClassRows.covering c.toNat with
    | some ⟨_, _, [n]⟩ => n
    | _ => 0

private def syllableBase : Nat := 0xAC00

/-- A Korean syllable taken apart into two or three letters. -/
private def splitSyllable (n : Nat) : List Char :=
  let i := n - syllableBase
  let last := i % 28
  [Char.ofNat (0x1100 + i / 588), Char.ofNat (0x1161 + i % 588 / 28)] ++
    if last == 0 then [] else [Char.ofNat (0x11A7 + last)]

/-- What a character is taken apart into by one step, if it can be. -/
@[irreducible] private def parts (n : Nat) : List Nat := ((decompositionRows.starting n).map Row.numbers).getD []

/-- A character taken apart as far as it goes. -/
private def decomposeChar : (fuel : Nat) → Char → List Char
  | 0, c => [c]
  | fuel + 1, c =>
    let n := c.toNat
    if n < 0xC0 then [c]
    else if syllableBase ≤ n && n < 0xD7A4 then splitSyllable n
    else if (parts n).isEmpty then [c]
    else (parts n).flatMap fun m => decomposeChar fuel (Char.ofNat m)

/-- Puts a mark behind all marks of its class or a lower one. -/
private def insertMark (c : Char) : List Char → List Char
  | [] => [c]
  | d :: rest =>
    if combiningClass c < combiningClass d then c :: d :: rest else d :: insertMark c rest

/-- Orders each stretch of marks; `marks` is the stretch being read. -/
private def orderMarks (marks : List Char) : List Char → List Char
  | [] => marks
  | c :: rest =>
    if combiningClass c == 0 then marks ++ c :: orderMarks [] rest
    else orderMarks (insertMark c marks) rest

private def composeSyllable? (a b : Nat) : Option Char :=
  if 0x1100 ≤ a && a < 0x1113 && 0x1161 ≤ b && b < 0x1176 then
    some (Char.ofNat (syllableBase + ((a - 0x1100) * 21 + (b - 0x1161)) * 28))
  else if syllableBase ≤ a && a < 0xD7A4 && (a - syllableBase) % 28 == 0 &&
      0x11A7 < b && b < 0x11C3 then
    some (Char.ofNat (a + (b - 0x11A7)))
  else none

/-- The one character that stands for a pair. The second of a pair is a mark, or comes behind the marks. -/
private def compose? (a b : Char) : Option Char :=
  if b.toNat < firstMark then none
  else match composeSyllable? a.toNat b.toNat with
    | some c => some c
    | none =>
      (decompositionRows.find? fun row => row.kind == 'K' && row.numbers == [a.toNat, b.toNat]).map
        fun row => Char.ofNat row.start

/-- Composes marks with `starter`, keeping those that do not fit; `blocked` is the class of the
last one kept. -/
private def composeFrom (starter : Char) (kept : List Char) (blocked : Option Nat) :
    List Char → List Char
  | [] => starter :: kept.reverse
  | c :: rest =>
    let k := combiningClass c
    let free := match blocked with
      | none => true
      | some b => b < k
    match if free then compose? starter c else none with
    | some whole => composeFrom whole kept blocked rest
    | none =>
      if k == 0 then starter :: kept.reverse ++ composeFrom c [] none rest
      else composeFrom starter (c :: kept) (some k) rest

/-- The canonical composition of a text. -/
def compose (text : List Char) : List Char :=
  let apart := orderMarks [] (text.flatMap (decomposeChar 8))
  let leading := apart.takeWhile (combiningClass · != 0)
  match apart.dropWhile (combiningClass · != 0) with
  | [] => leading
  | c :: rest => leading ++ composeFrom c [] none rest

/-! ### Text before all marks -/

private theorem combiningClass_of_lt {c : Char} (low : c.toNat < 0xC0) : combiningClass c = 0 := by
  rw [combiningClass, if_pos (Nat.lt_trans low (by decide))]

private theorem decomposeChar_of_lt {c : Char} (low : c.toNat < 0xC0) (fuel : Nat) : decomposeChar fuel c = [c] := by
  cases fuel with
  | zero => rw [decomposeChar]
  | succ fuel => simp only [decomposeChar, low, if_true]

private theorem orderMarks_of_lt {text : List Char} (low : ∀ c ∈ text, c.toNat < 0xC0) :
    orderMarks [] text = text := by
  induction text with
  | nil => rfl
  | cons c rest ih =>
    have ⟨here, later⟩ := List.forall_mem_cons.mp low
    rw [orderMarks, combiningClass_of_lt here, ih later]
    rfl

private theorem composeFrom_of_lt {text : List Char} (low : ∀ c ∈ text, c.toNat < 0xC0) (starter : Char) :
    composeFrom starter [] none text = starter :: text := by
  induction text generalizing starter with
  | nil => rfl
  | cons c rest ih =>
    have ⟨here, later⟩ := List.forall_mem_cons.mp low
    have apart : compose? starter c = none := by rw [compose?, if_pos (Nat.lt_trans here (by decide))]
    simp only [composeFrom, combiningClass_of_lt here, apart, ih later, if_true, beq_self_eq_true, ite_self,
      List.reverse_nil, List.nil_append, List.cons_append]

/-- Nothing is composed in a text whose characters come before all that can be taken apart. -/
theorem compose_of_lt {text : List Char} (low : ∀ c ∈ text, c.toNat < 0xC0) : compose text = text := by
  have whole : text.flatMap (decomposeChar 8) = text := by
    induction text with
    | nil => rfl
    | cons c rest ih =>
      have ⟨here, later⟩ := List.forall_mem_cons.mp low
      rw [List.flatMap_cons, decomposeChar_of_lt here, ih later]
      rfl
  unfold compose
  rw [whole, orderMarks_of_lt low]
  cases text with
  | nil => rfl
  | cons c rest =>
    have ⟨here, later⟩ := List.forall_mem_cons.mp low
    have none : (combiningClass c != 0) = false := by rw [combiningClass_of_lt here]; rfl
    simp only [List.takeWhile_cons, List.dropWhile_cons, none, Bool.false_eq_true, if_false]
    rw [composeFrom_of_lt later]
    rfl

end Harvest.Text.Normal
