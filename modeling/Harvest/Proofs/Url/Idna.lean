import Harvest.Proofs.Text.Ascii
import Harvest.Proofs.Url.Punycode
import Harvest.Url.Idna
import Mathlib.Data.Bool.AllAny

/-!
Names in ASCII as they are written. What is written for a name is written for itself as well, and so is what
remains of it behind any of its points.
-/

namespace Harvest.Url.Idna

open Text (lowerAscii)

/-! ### Labels -/

theorem splitLabels_ne_nil (text : List Char) : splitLabels text ≠ [] := by
  cases text with
  | nil => exact List.cons_ne_nil _ _
  | cons c rest =>
    rw [splitLabels]
    split
    · exact List.cons_ne_nil _ _
    · split <;> exact List.cons_ne_nil _ _

theorem splitLabels_point (text : List Char) : splitLabels ('.' :: text) = [] :: splitLabels text := by
  obtain ⟨label, labels, shape⟩ := List.exists_cons_of_ne_nil (splitLabels_ne_nil text)
  rw [splitLabels, shape]
  rfl

theorem splitLabels_cons {c : Char} (letter : c ≠ '.') {text label : List Char} {labels : List (List Char)}
    (shape : splitLabels text = label :: labels) : splitLabels (c :: text) = (c :: label) :: labels := by
  rw [splitLabels, shape]
  exact if_neg (by simp [letter])

theorem splitLabels_append {label : List Char} (unbroken : '.' ∉ label) (text : List Char) :
    splitLabels (label ++ '.' :: text) = label :: splitLabels text := by
  induction label with
  | nil => exact splitLabels_point text
  | cons c rest ih =>
    have letter : c ≠ '.' := fun is => unbroken (is ▸ List.mem_cons_self)
    exact splitLabels_cons letter (ih fun member => unbroken (List.mem_cons_of_mem _ member))

theorem splitLabels_unbroken {label : List Char} (unbroken : '.' ∉ label) : splitLabels label = [label] := by
  induction label with
  | nil => rfl
  | cons c rest ih =>
    have letter : c ≠ '.' := fun is => unbroken (is ▸ List.mem_cons_self)
    exact splitLabels_cons letter (ih fun member => unbroken (List.mem_cons_of_mem _ member))

theorem joinLabels_cons (label : List Char) {labels : List (List Char)} (some : labels ≠ []) :
    joinLabels (label :: labels) = label ++ '.' :: joinLabels labels := by
  cases labels with
  | nil => exact absurd rfl some
  | cons => rfl

theorem splitLabels_joinLabels {labels : List (List Char)} (some : labels ≠ [])
    (unbroken : ∀ label ∈ labels, '.' ∉ label) : splitLabels (joinLabels labels) = labels := by
  induction labels with
  | nil => exact absurd rfl some
  | cons label rest ih =>
    have ⟨here, later⟩ := List.forall_mem_cons.mp unbroken
    cases rest with
    | nil => exact splitLabels_unbroken here
    | cons next rest =>
      have more := List.cons_ne_nil next rest
      rw [joinLabels_cons label more, splitLabels_append here, ih more later]

/-- A text is its labels with points between them, and no label holds a point. -/
theorem splitLabels_spec (text : List Char) :
    joinLabels (splitLabels text) = text ∧ ∀ label ∈ splitLabels text, '.' ∉ label := by
  induction text with
  | nil => exact ⟨rfl, List.forall_mem_singleton.mpr List.not_mem_nil⟩
  | cons c rest ih =>
    obtain ⟨joined, unbroken⟩ := ih
    by_cases point : c = '.'
    · subst point
      rw [splitLabels_point, joinLabels_cons [] (splitLabels_ne_nil rest), joined]
      exact ⟨rfl, List.forall_mem_cons.mpr ⟨List.not_mem_nil, unbroken⟩⟩
    · obtain ⟨label, labels, shape⟩ := List.exists_cons_of_ne_nil (splitLabels_ne_nil rest)
      rw [splitLabels_cons point shape]
      rw [shape] at joined unbroken
      have ⟨here, later⟩ := List.forall_mem_cons.mp unbroken
      refine ⟨?_, List.forall_mem_cons.mpr ⟨?_, later⟩⟩
      · rw [← joined]
        cases labels with
        | nil => rfl
        | cons => rfl
      · exact fun member => (List.mem_cons.mp member).elim (fun is => point is.symm) here

theorem mem_joinLabels {labels : List (List Char)} {c : Char} (member : c ∈ joinLabels labels) :
    c = '.' ∨ ∃ label ∈ labels, c ∈ label := by
  induction labels with
  | nil => cases member
  | cons label rest ih =>
    cases rest with
    | nil => exact Or.inr ⟨label, List.mem_cons_self, member⟩
    | cons next rest =>
      rw [joinLabels_cons label (List.cons_ne_nil next rest)] at member
      rcases List.mem_append.mp member with here | later
      · exact Or.inr ⟨label, List.mem_cons_self, here⟩
      · rcases List.mem_cons.mp later with point | later
        · exact Or.inl point
        · exact (ih later).imp_right fun ⟨other, inside, here⟩ => ⟨other, List.mem_cons_of_mem _ inside, here⟩

/-- A label that can be written and read again. -/
structure Readable (label : List Char) : Prop where
  unbroken : '.' ∉ label
  valid : isValidLabel label = true
  unmarked : label.all isAscii = true → encodedMark.isPrefixOf label = false

theorem staysItself_lower {c : Char} (stays : staysItself c = true) : lowerAscii c = c := by
  unfold staysItself at stays
  split at stays
  next keep => exact Mapping.lower_of_keep keep
  · cases stays

namespace Readable

variable {label : List Char}

theorem of_readLabel {written : List Char} (unbroken : '.' ∉ written) (read : readLabel written = some label) :
    Readable label := by
  unfold readLabel at read
  split at read
  · obtain ⟨decoded, valid⟩ := Option.filter_eq_some_iff.mp read
    obtain ⟨outside, valid⟩ := Bool.and_eq_true_iff.mp valid
    refine ⟨fun member => ?_, valid, fun inside => ?_⟩
    · rcases Punycode.mem_decode? decoded member with there | outside
      · exact unbroken (List.mem_of_mem_drop there)
      · revert outside
        decide
    · rw [inside] at outside
      cases outside
  next unmarked =>
    split at read
    next valid =>
      cases read
      exact ⟨unbroken, valid, fun _ => Bool.eq_false_iff.mpr unmarked⟩
    · cases read

theorem lower (readable : Readable label) {c : Char} (member : c ∈ label) : lowerAscii c = c := by
  have valid := readable.valid
  simp only [isValidLabel, Bool.and_eq_true] at valid
  exact staysItself_lower (List.all_eq_true.mp valid.1.2 c member)

/-- Reading undoes writing. -/
theorem readLabel_writeLabel (readable : Readable label) : readLabel (writeLabel label) = some label := by
  unfold writeLabel readLabel
  split
  next ascii => rw [if_neg (Bool.eq_false_iff.mp (readable.unmarked ascii)), if_pos readable.valid]
  next outside =>
    rw [if_pos (List.isPrefixOf_iff_prefix.mpr (List.prefix_append _ _)), List.drop_left, Punycode.decode?_encode]
    refine Option.filter_eq_some_iff.mpr ⟨rfl, ?_⟩
    rw [readable.valid, Bool.eq_false_iff.mpr outside]
    rfl

/-- What is written of a label is in small ASCII letters, without points. -/
theorem mem_writeLabel (readable : Readable label) {c : Char} (member : c ∈ writeLabel label) :
    c.toNat < 128 ∧ lowerAscii c = c ∧ c ≠ '.' := by
  have mark : ∀ c ∈ encodedMark, c.toNat < 128 ∧ lowerAscii c = c ∧ c ≠ '.' :=
    List.all_iff_forall_prop.mp (by decide)
  have digit : ∀ d < 36, (Punycode.digitChar d).toNat < 128 ∧
      lowerAscii (Punycode.digitChar d) = Punycode.digitChar d ∧ Punycode.digitChar d ≠ '.' := by decide
  have inside {c : Char} (member : c ∈ label) : lowerAscii c = c ∧ c ≠ '.' :=
    ⟨readable.lower member, fun is => readable.unbroken (is ▸ member)⟩
  unfold writeLabel at member
  split at member
  next ascii => exact ⟨of_decide_eq_true (List.all_eq_true.mp ascii c member), inside member⟩
  · rcases List.mem_append.mp member with front | encoded
    · exact mark c front
    · rcases Punycode.mem_encode encoded with ⟨member, ascii⟩ | rfl | ⟨d, small, rfl⟩
      · exact ⟨ascii, inside member⟩
      · decide
      · exact digit d small

end Readable

/-! ### Names -/

/-- A name that stands for labels, not all of them in ASCII. -/
def Encoded (name : List Char) : Prop :=
  ∃ labels : List (List Char), labels ≠ [] ∧ name = joinLabels (labels.map writeLabel) ∧
    (∀ label ∈ labels, Readable label) ∧ (labels.any (·.any isRightward) && !labels.all directionFits) = false

/-- A name as it is written. -/
structure Written (name : List Char) : Prop where
  ascii : ∀ c ∈ name, c.toNat < 128
  lower : ∀ c ∈ name, lowerAscii c = c
  fit : ∀ c ∈ name, isForbidden c = false
  labels : isPlain name = true ∨ Encoded name

private theorem mapChars_keep {text : List Char} (keep : ∀ c ∈ text, Mapping.of c = .keep) :
    mapChars text = some text := by
  induction text with
  | nil => rfl
  | cons c rest ih =>
    have ⟨here, later⟩ := List.forall_mem_cons.mp keep
    rw [mapChars, ih later]
    simp only [Option.bind_eq_bind, Option.bind_some, here]

private theorem readable_of_mapM {written labels : List (List Char)} (unbroken : ∀ label ∈ written, '.' ∉ label)
    (read : written.mapM readLabel = some labels) :
    labels.length = written.length ∧ ∀ label ∈ labels, Readable label := by
  induction written generalizing labels with
  | nil =>
    cases read
    exact ⟨rfl, fun _ => nofun⟩
  | cons first rest ih =>
    have ⟨here, later⟩ := List.forall_mem_cons.mp unbroken
    rw [List.mapM_cons] at read
    obtain ⟨label, one, read⟩ := Option.bind_eq_some_iff.mp read
    obtain ⟨others, more, read⟩ := Option.bind_eq_some_iff.mp read
    cases read
    obtain ⟨length, readable⟩ := ih later more
    exact ⟨congrArg Nat.succ length, List.forall_mem_cons.mpr ⟨.of_readLabel here one, readable⟩⟩

private theorem mapM_writeLabel {labels : List (List Char)} (readable : ∀ label ∈ labels, Readable label) :
    (labels.map writeLabel).mapM readLabel = some labels := by
  induction labels with
  | nil => rfl
  | cons label rest ih =>
    have ⟨here, later⟩ := List.forall_mem_cons.mp readable
    rw [List.map_cons, List.mapM_cons, here.readLabel_writeLabel, ih later]
    rfl

/-- What is written for a name. -/
theorem written_of_toAscii {name written : List Char} (is : toAscii name = some written) : Written written := by
  unfold toAscii at is
  dsimp only at is
  split at is
  next plain =>
    split at is
    · cases is
    next fit =>
      cases is
      obtain ⟨ascii, -⟩ := Bool.and_eq_true_iff.mp plain
      refine ⟨fun c member => of_decide_eq_true (List.all_eq_true.mp ascii c member), fun c member => ?_,
        by simpa using fit, Or.inl plain⟩
      obtain ⟨c, -, rfl⟩ := List.mem_map.mp member
      exact Text.lowerAscii_idem c
  · obtain ⟨mapped, -, is⟩ := Option.bind_eq_some_iff.mp is
    obtain ⟨labels, read, is⟩ := Option.bind_eq_some_iff.mp is
    split at is
    · cases is
    next direction =>
      split at is
      · cases is
      next fit =>
        cases is
        obtain ⟨length, readable⟩ := readable_of_mapM (splitLabels_spec _).2 read
        have some : labels ≠ [] := by
          rintro rfl
          exact splitLabels_ne_nil _ (List.length_eq_zero_iff.mp length.symm)
        have small (c : Char) (member : c ∈ joinLabels (labels.map writeLabel)) : c.toNat < 128 ∧ lowerAscii c = c := by
          rcases mem_joinLabels member with rfl | ⟨written, inside, here⟩
          · decide
          · obtain ⟨label, known, rfl⟩ := List.mem_map.mp inside
            obtain ⟨ascii, lower, -⟩ := (readable label known).mem_writeLabel here
            exact ⟨ascii, lower⟩
        exact ⟨fun c member => (small c member).1, fun c member => (small c member).2, by simpa using fit,
          Or.inr ⟨labels, some, rfl, readable, Bool.eq_false_iff.mpr direction⟩⟩

private theorem splitLabels_writeLabel {labels : List (List Char)} (some : labels ≠ [])
    (readable : ∀ label ∈ labels, Readable label) :
    splitLabels (joinLabels (labels.map writeLabel)) = labels.map writeLabel := by
  refine splitLabels_joinLabels (by simpa using some) fun written inside member => ?_
  obtain ⟨label, known, rfl⟩ := List.mem_map.mp inside
  exact ((readable label known).mem_writeLabel member).2.2 rfl

namespace Written

variable {name : List Char}

/-- A name as it is written is written for itself. -/
theorem toAscii (written : Written name) : toAscii name = some name := by
  have same : name.map lowerAscii = name := Text.map_lowerAscii_of written.lower
  have fit : ¬ name.any isForbidden = true := by
    simpa using written.fit
  unfold Idna.toAscii
  rw [same]
  dsimp only
  rw [if_neg fit]
  split
  · rfl
  next plain =>
    obtain ⟨labels, some, is, readable, direction⟩ := written.labels.resolve_left plain
    have mapped := mapChars_keep fun c member => Mapping.of_eq_keep (written.ascii c member) (written.lower c member)
    have composed : Text.Normal.compose name = name :=
      Text.Normal.compose_of_lt fun c member => Nat.lt_trans (written.ascii c member) (by decide)
    have split : splitLabels name = labels.map writeLabel := is ▸ splitLabels_writeLabel some readable
    simp only [mapped, Option.bind_eq_bind, Option.bind_some, composed, split, mapM_writeLabel readable]
    rw [if_neg (Bool.eq_false_iff.mp direction), ← is, if_neg fit]

/-- What remains behind a point is a name as it is written. -/
theorem tail {label rest : List Char} (unbroken : '.' ∉ label) (written : Written (label ++ '.' :: rest)) :
    Written rest := by
  obtain ⟨ascii, lower, fit, labels⟩ := written
  have inside {c : Char} (member : c ∈ rest) : c ∈ label ++ '.' :: rest :=
    List.mem_append_right _ (List.mem_cons_of_mem _ member)
  refine ⟨fun c member => ascii c (inside member), fun c member => lower c (inside member),
    fun c member => fit c (inside member), ?_⟩
  rcases labels with plain | ⟨labels, some, is, readable, direction⟩
  · left
    simp only [isPlain, splitLabels_append unbroken, List.all_append, List.all_cons, Bool.and_eq_true] at plain ⊢
    exact ⟨plain.1.2.2, plain.2.2⟩
  · right
    have split := splitLabels_writeLabel some readable
    rw [← is, splitLabels_append unbroken] at split
    obtain ⟨first, others, rfl⟩ := List.exists_cons_of_ne_nil some
    obtain ⟨-, later⟩ := List.cons_eq_cons.mp split
    obtain ⟨-, readable⟩ := List.forall_mem_cons.mp readable
    refine ⟨others, ?_, ?_, readable, ?_⟩
    · rintro rfl
      exact splitLabels_ne_nil _ later
    · rw [← later, (splitLabels_spec rest).1]
    · simp only [List.any_cons, List.all_cons, Bool.and_eq_false_iff, Bool.or_eq_false_iff,
        Bool.not_eq_false', Bool.and_eq_true] at direction ⊢
      exact direction.imp (·.2) (·.2)

end Written

end Harvest.Url.Idna
