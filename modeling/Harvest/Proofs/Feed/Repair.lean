import Harvest.Feed.Reader
import Harvest.Proofs.Text.Utf8
import Mathlib.Data.List.TakeDrop

/-!
Repair of feeds. Exactly the ampersands that start no reference are escaped. What is inserted makes a reference of
each and takes none apart, so repairing once is enough; and a document that had to be repaired has changed.
-/

namespace Harvest.Feed

/-! ### References -/

def IsDigit (c : Char) : Prop := '0' ≤ c ∧ c ≤ '9'

def IsLetter (c : Char) : Prop := ('a' ≤ c ∧ c ≤ 'z') ∨ ('A' ≤ c ∧ c ≤ 'Z')

def IsHexDigit (c : Char) : Prop := IsDigit c ∨ ('a' ≤ c ∧ c ≤ 'f') ∨ ('A' ≤ c ∧ c ≤ 'F')

instance : DecidablePred IsDigit := fun c => inferInstanceAs (Decidable ('0' ≤ c ∧ c ≤ '9'))

instance : DecidablePred IsLetter := fun _ => inferInstanceAs (Decidable (_ ∨ _))

instance : DecidablePred IsHexDigit := fun _ => inferInstanceAs (Decidable (_ ∨ _))

/-- What stands between the ampersand and the semicolon of a reference. -/
inductive ReferenceName : List Char → Prop where
  | decimal {digits : List Char} (some : digits ≠ []) (all : ∀ d ∈ digits, IsDigit d) : ReferenceName ('#' :: digits)
  | hexadecimal {mark : Char} {digits : List Char} (marked : mark = 'x' ∨ mark = 'X') (some : digits ≠ [])
      (all : ∀ d ∈ digits, IsHexDigit d) : ReferenceName ('#' :: mark :: digits)
  | entity {first : Char} {rest : List Char} (letter : IsLetter first) (all : ∀ c ∈ rest, IsLetter c ∨ IsDigit c) :
      ReferenceName (first :: rest)

namespace ReferenceName

variable {first : Char} {rest : List Char}

theorem hexadecimal_iff (marked : first = 'x' ∨ first = 'X') :
    ReferenceName ('#' :: first :: rest) ↔ rest ≠ [] ∧ ∀ d ∈ rest, IsHexDigit d := by
  have noDigit : ¬IsDigit first := by
    rcases marked with rfl | rfl
    · decide
    · decide
  constructor
  · intro name
    cases name with
    | decimal _ all => exact absurd (all first List.mem_cons_self) noDigit
    | hexadecimal _ filled all => exact ⟨filled, all⟩
    | entity letter => exact absurd letter (by decide)
  · exact fun ⟨filled, all⟩ => .hexadecimal marked filled all

theorem decimal_iff (unmarked : ∀ digits, rest ≠ 'x' :: digits ∧ rest ≠ 'X' :: digits) :
    ReferenceName ('#' :: rest) ↔ rest ≠ [] ∧ ∀ d ∈ rest, IsDigit d := by
  constructor
  · intro name
    cases name with
    | decimal filled all => exact ⟨filled, all⟩
    | hexadecimal marked =>
      rcases marked with rfl | rfl
      · exact absurd rfl (unmarked _).1
      · exact absurd rfl (unmarked _).2
    | entity letter => exact absurd letter (by decide)
  · exact fun ⟨filled, all⟩ => .decimal filled all

theorem entity_iff (named : first ≠ '#') :
    ReferenceName (first :: rest) ↔ IsLetter first ∧ ∀ c ∈ rest, IsLetter c ∨ IsDigit c := by
  constructor
  · intro name
    cases name with
    | decimal => exact absurd rfl named
    | hexadecimal => exact absurd rfl named
    | entity letter all => exact ⟨letter, all⟩
  · exact fun ⟨letter, all⟩ => .entity letter all

/-- Nothing stands in a name but a hash sign, letters and digits. -/
theorem not_mem {name : List Char} (is : ReferenceName name) {c : Char} (noHash : c ≠ '#') (noLetter : ¬IsLetter c)
    (noDigit : ¬IsDigit c) : c ∉ name := by
  have hex (is : IsHexDigit c) : False := by
    rcases is with digit | small | large
    · exact noDigit digit
    · exact noLetter (Or.inl ⟨small.1, Char.le_trans small.2 (by decide)⟩)
    · exact noLetter (Or.inr ⟨large.1, Char.le_trans large.2 (by decide)⟩)
  intro member
  cases is with
  | decimal _ all =>
    rcases List.mem_cons.mp member with same | inside
    · exact noHash same
    · exact noDigit (all c inside)
  | hexadecimal marked _ all =>
    rcases List.mem_cons.mp member with same | inside
    · exact noHash same
    · rcases List.mem_cons.mp inside with rfl | inside
      · rcases marked with rfl | rfl
        · exact noLetter (by decide)
        · exact noLetter (by decide)
      · exact hex (all c inside)
  | entity letter all =>
    rcases List.mem_cons.mp member with rfl | inside
    · exact noLetter letter
    · exact (all c inside).elim noLetter noDigit

end ReferenceName

theorem isReferenceName_iff {name : List Char} : isReferenceName name = true ↔ ReferenceName name := by
  have hex (c : Char) : (('0' ≤ c && c ≤ '9') || ('a' ≤ c && c ≤ 'f') || ('A' ≤ c && c ≤ 'F')) = true ↔
      IsHexDigit c := by
    simp [IsHexDigit, IsDigit, or_assoc]
  have digit (c : Char) : ('0' ≤ c && c ≤ '9') = true ↔ IsDigit c := by simp [IsDigit]
  have letter (c : Char) : (('a' ≤ c && c ≤ 'z') || ('A' ≤ c && c ≤ 'Z')) = true ↔ IsLetter c := by simp [IsLetter]
  unfold isReferenceName
  split
  · rw [ReferenceName.hexadecimal_iff (Or.inl rfl), Bool.and_eq_true, List.all_eq_true, Bool.not_eq_true',
      List.isEmpty_eq_false_iff]
    exact and_congr_right fun _ => forall₂_congr fun d _ => hex d
  · rw [ReferenceName.hexadecimal_iff (Or.inr rfl), Bool.and_eq_true, List.all_eq_true, Bool.not_eq_true',
      List.isEmpty_eq_false_iff]
    exact and_congr_right fun _ => forall₂_congr fun d _ => hex d
  next small large =>
    rw [ReferenceName.decimal_iff fun digits => ⟨small digits, large digits⟩, Bool.and_eq_true, List.all_eq_true,
      Bool.not_eq_true', List.isEmpty_eq_false_iff]
    exact and_congr_right fun _ => forall₂_congr fun d _ => digit d
  next number =>
    rw [ReferenceName.entity_iff fun same => number (same ▸ rfl), Bool.and_eq_true, List.all_eq_true]
    exact and_congr (letter _) (forall₂_congr fun c _ => Bool.or_eq_true _ _ ▸ or_congr (letter c) (digit c))
  next => exact ⟨nofun, nofun⟩

/-- Behind an ampersand, the text makes it a reference. -/
def StartsReference (rest : List Char) : Prop := ∃ name more, rest = name ++ ';' :: more ∧ ReferenceName name

theorem startsReference_iff {rest : List Char} : startsReference rest = true ↔ StartsReference rest := by
  unfold startsReference
  rw [List.span_eq_takeWhile_dropWhile]
  constructor
  · intro is
    have whole := List.takeWhile_append_dropWhile (p := (· != ';')) (l := rest)
    cases back : rest.dropWhile (· != ';') with
    | nil =>
      rw [back] at is
      cases is
    | cons mark more =>
      have stops : (mark != ';') = false := by
        simpa [back] using List.head_dropWhile_not (· != ';') (l := rest) (by rw [back]; exact List.cons_ne_nil _ _)
      rw [back] at is
      refine ⟨rest.takeWhile (· != ';'), more, ?_, isReferenceName_iff.mp is⟩
      rw [back, bne_eq_false_iff_eq.mp stops] at whole
      exact whole.symm
  · rintro ⟨name, more, rfl, is⟩
    have inside : ∀ c ∈ name, (c != ';') = true := fun c member =>
      bne_iff_ne.mpr fun same => is.not_mem (by decide) (by decide) (by decide) (same ▸ member)
    obtain ⟨front, back⟩ := Text.span_append inside (';' :: more) rfl
    rw [front, back]
    exact isReferenceName_iff.mpr is

instance : DecidablePred StartsReference := fun _ => decidable_of_iff _ startsReference_iff

/-! ### Bare ampersands -/

/-- An ampersand stands at the position that starts no reference. -/
def BareAt (text : List Char) (i : Nat) : Prop := text[i]? = some '&' ∧ ¬StartsReference (text.drop (i + 1))

instance (text : List Char) (i : Nat) : Decidable (BareAt text i) := inferInstanceAs (Decidable (_ ∧ _))

theorem bareAt_zero {c : Char} {rest : List Char} : BareAt (c :: rest) 0 ↔ c = '&' ∧ ¬StartsReference rest := by
  simp [BareAt]

theorem bareAt_succ {c : Char} {rest : List Char} {i : Nat} : BareAt (c :: rest) (i + 1) ↔ BareAt rest i := Iff.rfl

theorem forall_not_bareAt_cons {c : Char} {rest : List Char} :
    (∀ i, ¬BareAt (c :: rest) i) ↔ (c = '&' → StartsReference rest) ∧ ∀ i, ¬BareAt rest i := by
  constructor
  · intro none
    exact ⟨fun mark => not_not.mp fun bare => none 0 (bareAt_zero.mpr ⟨mark, bare⟩), fun i => bareAt_succ.not.mp (none (i + 1))⟩
  · rintro ⟨first, others⟩ i
    cases i with
    | zero => exact fun bare => (bareAt_zero.mp bare).2 (first (bareAt_zero.mp bare).1)
    | succ i => exact bareAt_succ.not.mpr (others i)

theorem escapeBare_cons (c : Char) (rest : List Char) : escapeBare (c :: rest) =
    if BareAt (c :: rest) 0 then '&' :: 'a' :: 'm' :: 'p' :: ';' :: escapeBare rest else c :: escapeBare rest := by
  have same : (c = '&' && !startsReference rest) = true ↔ BareAt (c :: rest) 0 := by
    rw [bareAt_zero, ← startsReference_iff]
    simp
  rw [escapeBare]
  exact if_congr same rfl rfl

/-- Behind each bare ampersand the rest of a reference is inserted, and nothing else is. -/
theorem escapeBare_eq (text : List Char) : escapeBare text =
    (text.mapIdx fun i c => c :: if BareAt text i then ['a', 'm', 'p', ';'] else []).flatten := by
  induction text with
  | nil => rfl
  | cons c rest ih =>
    rw [escapeBare_cons, List.mapIdx_cons, List.flatten_cons, ih]
    split
    next bare =>
      obtain rfl := (bareAt_zero.mp bare).1
      rfl
    · rfl

/-- A stretch without an ampersand stands as it is. -/
theorem escapeBare_append {front : List Char} (plain : '&' ∉ front) (back : List Char) :
    escapeBare (front ++ back) = front ++ escapeBare back := by
  induction front with
  | nil => rfl
  | cons c front ih =>
    have other : c ≠ '&' := fun mark => plain (mark ▸ List.mem_cons_self)
    rw [List.cons_append, escapeBare_cons, if_neg fun bare => other (bareAt_zero.mp bare).1,
      ih fun inside => plain (List.mem_cons_of_mem _ inside)]
    rfl

/-- Escaping behind an ampersand takes no reference apart, since a name has no ampersand. -/
theorem StartsReference.escapeBare {rest : List Char} (starts : StartsReference rest) :
    StartsReference (escapeBare rest) := by
  obtain ⟨name, more, rfl, is⟩ := starts
  have plain : '&' ∉ name ++ [';'] := by
    simp [is.not_mem (c := '&') (by decide) (by decide) (by decide)]
  refine ⟨name, Feed.escapeBare more, ?_, is⟩
  have split := escapeBare_append plain more
  rwa [List.append_assoc, List.append_assoc] at split

theorem startsReference_amp (rest : List Char) : StartsReference ('a' :: 'm' :: 'p' :: ';' :: rest) :=
  ⟨['a', 'm', 'p'], rest, rfl, .entity (by decide) (List.forall_mem_cons.mpr ⟨Or.inl (by decide),
    List.forall_mem_singleton.mpr (Or.inl (by decide))⟩)⟩

/-- What is escaped has no bare ampersand. -/
theorem not_bareAt_escapeBare (text : List Char) : ∀ i, ¬BareAt (escapeBare text) i := by
  induction text with
  | nil => exact fun i bare => by cases bare.1
  | cons c rest ih =>
    rw [escapeBare_cons]
    split
    · have other {c : Char} (not : c ≠ '&') {rest : List Char} (none : ∀ i, ¬BareAt rest i) :
          ∀ i, ¬BareAt (c :: rest) i :=
        forall_not_bareAt_cons.mpr ⟨fun mark => absurd mark not, none⟩
      refine forall_not_bareAt_cons.mpr ⟨fun _ => startsReference_amp _, ?_⟩
      exact other (by decide) (other (by decide) (other (by decide) (other (by decide) ih)))
    next reference =>
      refine forall_not_bareAt_cons.mpr ⟨fun mark => StartsReference.escapeBare ?_, ih⟩
      exact not_not.mp fun bare => reference (bareAt_zero.mpr ⟨mark, bare⟩)

theorem escapeBare_of_none {text : List Char} (none : ∀ i, ¬BareAt text i) : escapeBare text = text := by
  induction text with
  | nil => rfl
  | cons c rest ih => rw [escapeBare_cons, if_neg (none 0), ih (forall_not_bareAt_cons.mp none).2]

/-! ### Repair -/

/-- Neither a byte order mark nor a blank stands in front. -/
def LeadsNothing (text : List Char) : Prop := ∀ c ∈ text.head?, c ≠ byteOrderMark ∧ Text.isBlank c = false

instance : DecidablePred LeadsNothing
  | [] => .isTrue nofun
  | c :: _ => decidable_of_iff (c ≠ byteOrderMark ∧ Text.isBlank c = false)
    ⟨fun solid _ first => Option.some_inj.mp first ▸ solid, fun leads => leads c rfl⟩

theorem dropLead_of_leadsNothing {text : List Char} (leads : LeadsNothing text) : dropLead text = text := by
  cases text with
  | nil => rfl
  | cons c rest =>
    obtain ⟨noMark, solid⟩ := leads c rfl
    rw [dropLead, List.dropWhile_cons_of_neg (by simpa using noMark), Text.trimStart,
      List.dropWhile_cons_of_neg (by simpa using solid)]

theorem repair_eq {document : List UInt8} {text : List Char} (written : Text.Utf8.decode? document = some text)
    (leads : LeadsNothing text) (none : ∀ i, ¬BareAt text i) : repair document = document := by
  rw [repair, Text.Utf8.decodeLossy_of_decode? written, dropLead_of_leadsNothing leads, escapeBare_of_none none]
  exact (Text.Utf8.decode?_eq_some_iff.mp written).symm

/-- A document that was recovered is not the one that its repair reads. -/
theorem repair_ne_of_recovered {document : List UInt8} {feed : Feed} (outcome : read document = .ok feed)
    (recovered : feed.recovered = true) : repair document ≠ document := by
  intro same
  unfold read at outcome
  cases strict : readStrict document with
  | ok plain =>
    rw [strict] at outcome
    cases outcome
    exact absurd (readStrict_unrepaired document feed strict) (by simp [recovered])
  | error fault =>
    rw [strict, same, strict] at outcome
    cases outcome

/-- Bare ampersands are escaped and nothing else, none is left behind, and what has none stays as it is; so repair
leaves a well-formed document alone, and only a document that it changes is recovered. -/
theorem bare_ampersands_escaped (text : List Char) (document : List UInt8) :
    escapeBare text = (text.mapIdx fun i c => c :: if BareAt text i then ['a', 'm', 'p', ';'] else []).flatten ∧
    (∀ i, ¬BareAt (escapeBare text) i) ∧
    escapeBare (escapeBare text) = escapeBare text ∧
    ((∀ i, ¬BareAt text i) → escapeBare text = text) ∧
    (Text.Utf8.decode? document = some text → LeadsNothing text → (∀ i, ¬BareAt text i) →
      repair document = document) ∧
    ∀ feed, read document = .ok feed → feed.recovered = true → repair document ≠ document :=
  ⟨escapeBare_eq text, not_bareAt_escapeBare text, escapeBare_of_none (not_bareAt_escapeBare text), escapeBare_of_none,
    repair_eq, fun _ => repair_ne_of_recovered⟩

/-- A feed behind a byte order mark. -/
private def markedFeed : List UInt8 := Text.Utf8.encodeText
  "\uFEFF\x7b\"version\":\"https://jsonfeed.org/version/1\",\"title\":\"R&D\",\"items\":[]\x7d"

theorem bare_ampersands_escaped_nested :
    escapeBare "R&D &lt; &#x; &a&b; &".toList = "R&amp;D &lt; &amp;#x; &amp;a&b; &amp;".toList ∧
    repair (Text.Utf8.encodeText "R&amp;D &lt;") = Text.Utf8.encodeText "R&amp;D &lt;" ∧
    ∃ feed, read markedFeed = .ok feed ∧ feed.recovered = true ∧ repair markedFeed ≠ markedFeed := by
  have escaped : escapeBare "R&D &lt;".toList = "R&amp;D &lt;".toList := by decide +kernel
  have none : ∀ i, ¬BareAt "R&amp;D &lt;".toList i := escaped ▸ not_bareAt_escapeBare _
  refine ⟨(bare_ampersands_escaped _ []).1.trans (by decide +kernel), ?_, ?_⟩
  · obtain ⟨-, -, -, -, clean, -⟩ := bare_ampersands_escaped "R&amp;D &lt;".toList (Text.Utf8.encodeText "R&amp;D &lt;")
    exact clean (Text.Utf8.decode?_encode _) (by decide +kernel) none
  · obtain ⟨-, -, -, -, -, changed⟩ := bare_ampersands_escaped [] markedFeed
    have outcome : (read markedFeed).toOption.map Feed.recovered = some true := by decide +kernel
    cases outcome' : read markedFeed with
    | error fault =>
      rw [outcome'] at outcome
      cases outcome
    | ok feed =>
      rw [outcome'] at outcome
      have recovered : feed.recovered = true := Option.some_inj.mp outcome
      exact ⟨feed, rfl, recovered, changed feed outcome' recovered⟩

end Harvest.Feed
