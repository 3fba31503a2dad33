import Harvest.Proofs.Text.Ascii
import Harvest.Proofs.Url.Percent
import Harvest.Url.Normalize
import Mathlib.Data.List.TakeWhile

/-!
Paths as they are read: segments that are no dots and hold nothing to be escaped. Such a path reads back from its
text, and to take the last slash off the path is to take it off the text.
-/

namespace Harvest.Url

/-- A character that a segment can hold. -/
def InSegment (kind : SchemeKind) (c : Char) : Prop :=
  c.toNat < 128 ∧ Percent.inPath c = false ∧ isDivider kind c = false

instance (kind : SchemeKind) (c : Char) : Decidable (InSegment kind c) := inferInstanceAs (Decidable (_ ∧ _))

/-- A segment of a path as it is read. -/
structure IsSegment (kind : SchemeKind) (segment : String) : Prop where
  plain : ∀ c ∈ segment.toList, InSegment kind c
  double : isDoubleDot segment = false
  single : isSingleDot segment = false

/-- The segments of a path as it is read. A path of files starts with an empty segment only if it has no other. -/
structure IsPath (kind : SchemeKind) (segments : List String) : Prop where
  segment : ∀ segment ∈ segments, IsSegment kind segment
  start : kind = .file → ∃ first rest, segments = first :: rest ∧ (first = "" → rest = [])

/-- A text without one slash at its end, or the slash alone where nothing else is left. -/
def withoutSlash (path : List Char) : List Char :=
  let rest := if path.getLast? == some '/' then path.dropLast else path
  if rest.isEmpty then ['/'] else rest

variable {kind : SchemeKind}

/-! ### Characters and segments -/

theorem InSegment.ends {c : Char} (inside : InSegment kind c) : endsPath c = false := by
  obtain ⟨-, plain, -⟩ := inside
  simp only [Percent.inPath, Bool.or_eq_false_iff] at plain
  simp only [endsPath, Bool.or_eq_false_iff]
  exact ⟨plain.1.1.2, plain.1.1.1.2⟩

theorem InSegment.visible {c : Char} (inside : InSegment kind c) : Text.IsVisible c :=
  Text.forall_ascii (P := fun c => InSegment kind c → Text.IsVisible c) (by cases kind <;> decide) inside.1 inside

private theorem inSegment_of_inEscape {c : Char} (escape : Percent.InEscape c) : InSegment kind c := by
  have digit : ∀ d < 16, InSegment kind (Percent.hexDigit d) := by
    cases kind <;> decide
  rcases escape with rfl | ⟨d, small, rfl⟩
  · cases kind <;> decide
  · exact digit d small

theorem ascii_of_isLetter {c : Char} (letter : isLetter c = true) : c.toNat < 128 := by
  simp only [isLetter, Bool.or_eq_true, Bool.and_eq_true, decide_eq_true_eq] at letter
  rcases letter with ⟨-, below⟩ | ⟨-, below⟩
  · exact Nat.lt_of_le_of_lt (show c.toNat ≤ 122 from below) (by decide)
  · exact Nat.lt_of_le_of_lt (show c.toNat ≤ 90 from below) (by decide)

private theorem inSegment_of_isLetter {c : Char} (letter : isLetter c = true) : InSegment kind c :=
  Text.forall_ascii (P := fun c => isLetter c = true → InSegment kind c) (by cases kind <;> decide)
    (ascii_of_isLetter letter) letter

theorem isSegment_empty : IsSegment kind "" := ⟨nofun, by decide, by decide⟩

private theorem isSegment_drive {raw : List Char} (drive : isDriveLetter raw = true) :
    IsSegment kind (String.ofList (raw.take 1 ++ [':'])) := by
  unfold isDriveLetter at drive
  split at drive
  next c d =>
    have letter := (Bool.and_eq_true_iff.mp drive).1
    refine ⟨fun x member => ?_, ?_, ?_⟩
    · rw [String.toList_ofList] at member
      rcases List.mem_cons.mp member with rfl | member
      · exact inSegment_of_isLetter letter
      · cases List.mem_singleton.mp member
        cases kind <;> decide
    · simp [isDoubleDot, Text.lowerAsciiText, String.ext_iff, Text.lowerAscii]
    · simp [isSingleDot, Text.lowerAsciiText, String.ext_iff, Text.lowerAscii]
  · cases drive

/-! ### What is read -/

private theorem resolveDots_spec {done : List String} {cut : List (List Char × Bool)}
    (known : ∀ segment ∈ done, IsSegment kind segment)
    (whole : ∀ piece ∈ cut, ∀ c ∈ piece.1, isDivider kind c = false) :
    ∀ segment ∈ resolveDots kind done cut, IsSegment kind segment := by
  induction cut generalizing done with
  | nil => exact fun segment member => known segment (List.mem_reverse.mp member)
  | cons piece rest ih =>
    obtain ⟨raw, slash⟩ := piece
    have ⟨here, later⟩ := List.forall_mem_cons.mp whole
    have closed {shorter : List String} (known : ∀ segment ∈ shorter, IsSegment kind segment) :
        ∀ segment ∈ resolveDots kind (if slash then shorter else "" :: shorter) rest, IsSegment kind segment := by
      refine ih ?_ later
      split
      · exact known
      · exact List.forall_mem_cons.mpr ⟨isSegment_empty, known⟩
    unfold resolveDots
    dsimp only
    split
    · refine closed fun segment member => known segment ?_
      split at member
      · split at member
        · exact member
        · cases member
      · exact List.mem_of_mem_drop member
    next notDouble =>
      split
      · exact closed known
      next notSingle =>
        split
        next drive =>
          simp only [Bool.and_eq_true] at drive
          exact ih (List.forall_mem_cons.mpr ⟨isSegment_drive drive.2, known⟩) later
        · refine ih (List.forall_mem_cons.mpr ⟨⟨fun c member => ?_, ?_, ?_⟩, known⟩) later
          · rw [String.toList_ofList] at member
            rcases Percent.mem_encode member with ⟨inside, ascii, plain⟩ | escape
            · exact ⟨ascii, plain, here c inside⟩
            · exact inSegment_of_inEscape escape
          · exact Bool.eq_false_iff.mpr notDouble
          · exact Bool.eq_false_iff.mpr notSingle

private theorem cutSegments_spec {pending text : List Char} (whole : ∀ c ∈ pending, isDivider kind c = false) :
    ∀ piece ∈ cutSegments kind pending text, ∀ c ∈ piece.1, isDivider kind c = false := by
  induction text generalizing pending with
  | nil =>
    intro piece member c inside
    cases List.mem_singleton.mp member
    exact whole c (List.mem_reverse.mp inside)
  | cons x rest ih =>
    unfold cutSegments
    split
    · exact List.forall_mem_cons.mpr ⟨fun c inside => whole c (List.mem_reverse.mp inside), ih nofun⟩
    next same => exact ih (List.forall_mem_cons.mpr ⟨Bool.eq_false_iff.mpr same, whole⟩)

/-- What is read is a path. -/
theorem isPath_readPath (text : List Char) : IsPath kind (readPath kind [] text).1 := by
  have whole : ∀ piece ∈ cutSegments kind [] (text.takeWhile (!endsPath ·)), ∀ c ∈ piece.1, isDivider kind c = false :=
    cutSegments_spec nofun
  have start : ∀ segment ∈ ([] : List String).reverse, IsSegment kind segment := nofun
  have spec := resolveDots_spec start whole
  unfold readPath
  dsimp only
  generalize resolveDots kind _ _ = segments at spec ⊢
  split
  next file =>
    refine ⟨fun segment member => ?_, fun _ => ?_⟩
    · split at member
      · cases List.mem_singleton.mp member
        exact isSegment_empty
      · exact spec segment ((List.dropWhile_sublist _).subset member)
    · split
      · exact ⟨"", [], rfl, fun _ => rfl⟩
      next some =>
        obtain ⟨first, rest, is⟩ := List.exists_cons_of_ne_nil fun none => some (List.isEmpty_iff.mpr none)
        have full := List.head?_dropWhile_not (·.isEmpty) segments
        rw [is] at full
        exact ⟨first, rest, is, fun empty => nomatch empty ▸ full⟩
  next other => exact ⟨spec, fun file => absurd (beq_iff_eq.mpr file) other⟩

/-! ### What is written -/

theorem Path.segments_toList (list : List String) :
    (Path.segments list).text.toList = list.flatMap ('/' :: ·.toList) := by
  change (String.join (list.map ("/" ++ ·))).toList = _
  rw [String.toList_join, List.flatMap_map]
  simp only [String.toList_append]
  rfl

private theorem cutSegments_append {segment : List Char} (whole : ∀ c ∈ segment, isDivider kind c = false)
    (pending rest : List Char) :
    cutSegments kind pending (segment ++ rest) = cutSegments kind (segment.reverse ++ pending) rest := by
  induction segment generalizing pending with
  | nil => rfl
  | cons c more ih =>
    have ⟨here, later⟩ := List.forall_mem_cons.mp whole
    rw [List.cons_append, cutSegments, here, if_neg Bool.false_ne_true, ih later, List.reverse_cons,
      List.append_assoc]
    rfl

private theorem resolveDots_segment {segment : String} (is : IsSegment kind segment) {done : List String}
    (drive : kind = .file → done = [] → isDriveLetter segment.toList = false) (slash : Bool)
    (rest : List (List Char × Bool)) :
    resolveDots kind done ((segment.toList, slash) :: rest) = resolveDots kind (segment :: done) rest := by
  have plain : Percent.encode Percent.inPath segment.toList = segment.toList :=
    Percent.encode_of_plain fun c member => ⟨(is.plain c member).1, (is.plain c member).2.1⟩
  have fixed : (kind == .file && done.isEmpty && isDriveLetter segment.toList) = false := by
    simp only [Bool.and_eq_false_iff, beq_eq_false_iff_ne, ne_eq]
    by_cases file : kind = .file
    · by_cases first : done = []
      · exact Or.inr (drive file first)
      · exact Or.inl (Or.inr (by simpa using first))
    · exact Or.inl (Or.inl file)
  conv => lhs; unfold resolveDots
  dsimp only
  rw [plain, String.ofList_toList, is.double, is.single, fixed, if_neg Bool.false_ne_true,
    if_neg Bool.false_ne_true, if_neg Bool.false_ne_true]

private theorem resolveDots_cutSegments {first : String} {rest : List String}
    (segment : ∀ segment ∈ first :: rest, IsSegment kind segment) {done : List String}
    (drive : kind = .file → done = [] → isDriveLetter first.toList = false) :
    resolveDots kind done (cutSegments kind [] (first.toList ++ rest.flatMap ('/' :: ·.toList))) =
      done.reverse ++ first :: rest := by
  induction rest generalizing first done with
  | nil =>
    have is := segment first List.mem_cons_self
    rw [cutSegments_append fun c member => (is.plain c member).2.2, List.flatMap_nil, cutSegments,
      List.append_nil, List.reverse_reverse, resolveDots_segment is drive, resolveDots, List.reverse_cons]
  | cons next more ih =>
    have ⟨is, later⟩ := List.forall_mem_cons.mp segment
    have slash : isDivider kind '/' = true := rfl
    have tail : resolveDots kind (first :: done) (cutSegments kind [] (next.toList ++ more.flatMap ('/' :: ·.toList))) =
        (first :: done).reverse ++ next :: more := ih later fun _ => nofun
    rw [cutSegments_append fun c member => (is.plain c member).2.2, List.flatMap_cons, List.cons_append,
      cutSegments, slash, if_pos rfl, List.append_nil, List.reverse_reverse, resolveDots_segment is drive,
      tail, List.reverse_cons, List.append_assoc]
    rfl

/-- A path reads back from its text behind the first slash, unless it starts with a drive letter. -/
theorem readPath_text {first : String} {rest : List String} (path : IsPath kind (first :: rest))
    (drive : kind = .file → isDriveLetter first.toList = false) :
    readPath kind [] (first.toList ++ rest.flatMap ('/' :: ·.toList)) = (first :: rest, []) := by
  have inside (c : Char) (member : c ∈ first.toList ++ rest.flatMap ('/' :: ·.toList)) : endsPath c = false := by
    rcases List.mem_append.mp member with here | later
    · exact ((path.segment first List.mem_cons_self).plain c here).ends
    · obtain ⟨segment, known, here⟩ := List.mem_flatMap.mp later
      rcases List.mem_cons.mp here with rfl | here
      · rfl
      · exact ((path.segment segment (List.mem_cons_of_mem _ known)).plain c here).ends
  generalize is : first.toList ++ rest.flatMap ('/' :: ·.toList) = text at inside
  have inner : ∀ c ∈ text, (!endsPath c) = true := fun c member => Bool.not_eq_eq_eq_not.mpr (inside c member)
  unfold readPath
  dsimp only
  rw [List.takeWhile_eq_self_iff.mpr inner, List.dropWhile_eq_nil_iff.mpr inner, ← is, List.reverse_nil,
    resolveDots_cutSegments path.segment fun file _ => drive file, List.reverse_nil, List.nil_append]
  split
  next file =>
    obtain ⟨_, _, shape, start⟩ := path.start (beq_iff_eq.mp file)
    cases shape
    by_cases empty : first = ""
    · rw [empty, start empty]
      rfl
    · have full : first.isEmpty = false := by simpa using empty
      rw [List.dropWhile_cons, full, if_neg Bool.false_ne_true]
      rfl
  · rfl

/-! ### Without the last slash -/

theorem withoutSlash_slash (path : List Char) :
    withoutSlash (path ++ ['/']) = if path.isEmpty then ['/'] else path := by
  simp [withoutSlash]

theorem withoutSlash_of_letter {path : List Char} {c : Char} (last : path.getLast? = some c) (letter : c ≠ '/') :
    withoutSlash path = path := by
  have some : path ≠ [] := by
    rintro rfl
    cases last
  simp [withoutSlash, last, letter, some]

private theorem withoutLastSlash_empty (front : List String) :
    (Path.segments (front ++ [""])).withoutLastSlash = .segments (if front.isEmpty then [""] else front) := by
  simp [Path.withoutLastSlash]

private theorem withoutLastSlash_full (front : List String) {last : String} (full : last ≠ "") :
    (Path.segments (front ++ [last])).withoutLastSlash = .segments (front ++ [last]) := by
  simp [Path.withoutLastSlash, full]

/-- The segments lose their last slash as the text does. -/
theorem Path.withoutLastSlash_text {list : List String} (path : IsPath kind list) :
    (Path.segments list).withoutLastSlash.text.toList = withoutSlash (Path.segments list).text.toList := by
  rcases List.eq_nil_or_concat' list with rfl | ⟨front, last, rfl⟩
  · rfl
  have text : (Path.segments (front ++ [last])).text.toList =
      (Path.segments front).text.toList ++ '/' :: last.toList := by
    simp only [segments_toList, List.flatMap_append, List.flatMap_singleton]
  rw [text]
  by_cases empty : last = ""
  · subst empty
    change _ = withoutSlash (_ ++ ['/'])
    rw [withoutLastSlash_empty, withoutSlash_slash]
    cases front with
    | nil => rfl
    | cons first rest => simp only [segments_toList, List.flatMap_cons, List.cons_append]; rfl
  · obtain ⟨c, ends⟩ : ∃ c, last.toList.getLast? = some c := by
      simpa [List.getLast?_eq_none_iff, ← Option.isSome_iff_exists] using empty
    have letter : c ≠ '/' := by
      rintro rfl
      exact nomatch ((path.segment last (by simp)).plain '/' (List.mem_of_getLast? ends)).2.2
    have ends : ((Path.segments front).text.toList ++ '/' :: last.toList).getLast? = some c := by
      simp [List.getLast?_cons, ends]
    rw [withoutLastSlash_full front empty, text, withoutSlash_of_letter ends letter]

private theorem withoutLastSlash_cons (first : String) (rest : List String) :
    ∃ shorter, (Path.segments (first :: rest)).withoutLastSlash = .segments (first :: shorter) ∧
      shorter.Sublist rest := by
  rcases List.eq_nil_or_concat' rest with rfl | ⟨front, last, rfl⟩
  · refine ⟨[], ?_, List.Sublist.refl _⟩
    by_cases empty : first = ""
    · rw [empty]
      rfl
    · exact withoutLastSlash_full [] empty
  · by_cases empty : last = ""
    · exact ⟨front, empty ▸ withoutLastSlash_empty (first :: front), List.sublist_append_left _ _⟩
    · exact ⟨front ++ [last], withoutLastSlash_full (first :: front) empty, List.Sublist.refl _⟩

/-- A path without its last slash is a path that is not empty and starts as it did. -/
theorem isPath_withoutLastSlash {list : List String} (path : IsPath kind list) :
    ∃ first rest, (Path.segments list).withoutLastSlash = .segments (first :: rest) ∧ IsPath kind (first :: rest) ∧
      (list.head?.any (isDriveLetter ·.toList) = false → isDriveLetter first.toList = false) := by
  cases list with
  | nil => exact ⟨"", [], rfl, ⟨by simp [isSegment_empty], fun _ => ⟨"", [], rfl, fun _ => rfl⟩⟩, fun _ => rfl⟩
  | cons first rest =>
    obtain ⟨shorter, is, sub⟩ := withoutLastSlash_cons first rest
    refine ⟨first, shorter, is, ⟨fun segment member => ?_, fun file => ?_⟩, fun driveless => driveless⟩
    · exact path.segment segment (List.Sublist.mem member (sub.cons_cons first))
    · obtain ⟨_, _, shape, start⟩ := path.start file
      cases shape
      exact ⟨first, shorter, rfl, fun empty => List.sublist_nil.mp (start empty ▸ sub)⟩

end Harvest.Url
