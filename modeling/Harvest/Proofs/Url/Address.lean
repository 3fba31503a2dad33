import Harvest.Url.Host
import Harvest.Proofs.Url.Idna
import Mathlib.Tactic.Linarith

/-!
Internet addresses as hosts. The text of an address reads back as the address.
-/

namespace Harvest.Url.Host

/-! ### Four bytes -/

/-- A byte as text. -/
def byteText (n : Nat) : List Char := Nat.toDigits 10 n

set_option maxRecDepth 4000 in
private theorem byteText_spec : ∀ n < 256, v4Number? (byteText n) = some n ∧ byteText n ≠ [] ∧
    (byteText n).all Decimal.isDigit = true ∧ Idna.encodedMark.isPrefixOf (byteText n) = false := by decide +kernel

/-- The bytes of an address, the first one in front. -/
def bytes (n : Nat) : List Nat := [n / 16777216, n / 65536 % 256, n / 256 % 256, n % 256]

theorem v4_toList (n : Nat) : (text (.v4 n)).toList = Idna.joinLabels ((bytes n).map byteText) := by
  have digits (n : Nat) : (toString n).toList = byteText n := String.toList_ofList
  simp only [text, bytes, String.toList_intercalate, List.map_cons, List.map_nil, digits]
  simp [List.intercalate, Idna.joinLabels]

/-- A number is less than what its digits could write at most. -/
private theorem foldl_lt {base : Nat} {digits : List Nat} (small : ∀ d ∈ digits, d < base) (front : Nat) :
    digits.foldl (fun n d => n * base + d) front < (front + 1) * base ^ digits.length := by
  induction digits generalizing front with
  | nil => simp
  | cons d rest ih =>
    have ⟨here, later⟩ := List.forall_mem_cons.mp small
    have next := ih later (front * base + d)
    calc (d :: rest).foldl (fun n d => n * base + d) front
        < (front * base + d + 1) * base ^ rest.length := next
      _ ≤ (front + 1) * base * base ^ rest.length := by
        refine Nat.mul_le_mul_right _ ?_
        rw [Nat.succ_mul]
        omega
      _ = (front + 1) * base ^ (d :: rest).length := by rw [Nat.mul_assoc, List.length_cons, Nat.pow_succ']

private theorem v4OfNumbers?_lt {numbers : List Nat} (few : numbers.length ≤ 4) {n : Nat}
    (read : v4OfNumbers? numbers = some n) : n < 2 ^ 32 := by
  obtain ⟨last, final, read⟩ := Option.bind_eq_some_iff.mp read
  have some : numbers ≠ [] := by
    rintro rfl
    cases final
  have length : numbers.dropLast.length + 1 ≤ 4 := by
    have positive := List.length_pos_iff.mpr some
    rw [List.length_dropLast]
    omega
  dsimp only at read
  generalize numbers.dropLast = front at length read
  split at read
  · cases read
  next fit =>
    cases read
    simp only [Bool.or_eq_true, decide_eq_true_eq, List.any_eq_true, not_or, not_exists, not_and] at fit
    obtain ⟨fits, small⟩ := fit
    have fits : last < 256 ^ (4 - front.length) := Nat.lt_of_not_le fits
    have below := foldl_lt (fun d member => Nat.lt_succ_of_le (Nat.le_of_not_lt (small d member))) 0
    rw [Nat.zero_add, Nat.one_mul] at below
    generalize front.foldl (fun n d => n * 256 + d) 0 = high at below
    have parts : 256 ^ front.length * 256 ^ (4 - front.length) = 2 ^ 32 := by
      rw [← Nat.pow_add, Nat.add_sub_cancel' (by omega)]
      rfl
    change high * 256 ^ (4 - front.length) + last < 2 ^ 32
    calc high * 256 ^ (4 - front.length) + last
        < high * 256 ^ (4 - front.length) + 256 ^ (4 - front.length) := Nat.add_lt_add_left fits _
      _ = (high + 1) * 256 ^ (4 - front.length) := (Nat.succ_mul _ _).symm
      _ ≤ 256 ^ front.length * 256 ^ (4 - front.length) := Nat.mul_le_mul_right _ below
      _ = 2 ^ 32 := parts

private theorem length_mapM {labels : List (List Char)} {numbers : List Nat}
    (each : labels.mapM v4Number? = some numbers) : numbers.length = labels.length := by
  induction labels generalizing numbers with
  | nil =>
    cases each
    rfl
  | cons label rest ih =>
    rw [List.mapM_cons] at each
    obtain ⟨first, -, each⟩ := Option.bind_eq_some_iff.mp each
    obtain ⟨others, more, each⟩ := Option.bind_eq_some_iff.mp each
    cases each
    exact congrArg Nat.succ (ih more)

theorem v4?_lt {name : List Char} {n : Nat} (read : v4? name = some n) : n < 2 ^ 32 := by
  unfold v4? at read
  split at read
  · cases read
  next few =>
    obtain ⟨numbers, each, read⟩ := Option.bind_eq_some_iff.mp read
    have length := length_mapM each
    exact v4OfNumbers?_lt (by omega) read

private theorem bytes_lt {n : Nat} (small : n < 2 ^ 32) : ∀ byte ∈ bytes n, byte < 256 := by
  simp only [bytes, List.forall_mem_cons]
  exact ⟨by omega, by omega, by omega, by omega, fun _ => nofun⟩

private theorem byteText_unbroken {byte : Nat} (small : byte < 256) : '.' ∉ byteText byte := by
  intro member
  have digits := (byteText_spec byte small).2.2.1
  have digit := List.all_eq_true.mp digits '.' member
  cases digit

/-- The labels of an address are its bytes. -/
theorem splitLabels_v4 {n : Nat} (small : n < 2 ^ 32) :
    Idna.splitLabels (text (.v4 n)).toList = (bytes n).map byteText := by
  rw [v4_toList]
  refine Idna.splitLabels_joinLabels (List.cons_ne_nil _ _) fun label member => ?_
  obtain ⟨byte, inside, rfl⟩ := List.mem_map.mp member
  exact byteText_unbroken (bytes_lt small byte inside)

theorem v4?_text {n : Nat} (small : n < 2 ^ 32) : v4? (text (.v4 n)).toList = some n := by
  have below := bytes_lt small
  have last : v4Labels (text (.v4 n)).toList = (bytes n).map byteText := by
    have some := (byteText_spec (n % 256) (by omega)).2.1
    unfold v4Labels
    rw [splitLabels_v4 small]
    exact if_neg (by simpa [bytes] using some)
  have numbers : ((bytes n).map byteText).mapM v4Number? = some (bytes n) := by
    generalize bytes n = bytes at below
    induction bytes with
    | nil => rfl
    | cons byte rest ih =>
      have ⟨here, later⟩ := List.forall_mem_cons.mp below
      rw [List.map_cons, List.mapM_cons, (byteText_spec byte here).1, ih later]
      rfl
  have address : v4OfNumbers? (bytes n) = some n := by
    simp only [bytes, List.forall_mem_cons] at below
    obtain ⟨a, b, c, d, -⟩ := below
    have whole : ((n / 16777216 * 256 + n / 65536 % 256) * 256 + n / 256 % 256) * 256 + n % 256 = n := by omega
    simp [bytes, v4OfNumbers?]
    omega
  unfold v4?
  rw [last, numbers]
  exact address

theorem mem_v4 {n : Nat} (small : n < 2 ^ 32) {c : Char} (member : c ∈ (text (.v4 n)).toList) :
    c = '.' ∨ Decimal.isDigit c = true := by
  rw [v4_toList] at member
  refine (Idna.mem_joinLabels member).imp_right fun ⟨label, known, inside⟩ => ?_
  obtain ⟨byte, within, rfl⟩ := List.mem_map.mp known
  exact List.all_eq_true.mp (byteText_spec byte (bytes_lt small byte within)).2.2.1 c inside

theorem ascii_of_isDigit {c : Char} (digit : Decimal.isDigit c = true) : c.toNat < 128 := by
  have below : c.toNat ≤ 57 := of_decide_eq_true (Bool.and_eq_true_iff.mp digit).2
  omega

theorem digit_spec {c : Char} (digit : c = '.' ∨ Decimal.isDigit c = true) :
    c.toNat < 128 ∧ Text.lowerAscii c = c ∧ Idna.isForbidden c = false := by
  have ascii : c.toNat < 128 := by
    rcases digit with rfl | digit
    · decide
    · exact ascii_of_isDigit digit
  have spec := Text.forall_ascii (P := fun c => c = '.' ∨ Decimal.isDigit c = true →
    Text.lowerAscii c = c ∧ Idna.isForbidden c = false) (by decide) ascii
  exact ⟨ascii, spec digit⟩

/-- An address is a name as it is written, and its last label is a number. -/
theorem written_v4 {n : Nat} (small : n < 2 ^ 32) : Idna.Written (text (.v4 n)).toList ∧
    endsInNumber (text (.v4 n)).toList = true := by
  have spec {c : Char} (member : c ∈ (text (.v4 n)).toList) := digit_spec (mem_v4 small member)
  refine ⟨⟨fun c member => (spec member).1, fun c member => (spec member).2.1, fun c member => (spec member).2.2,
    Or.inl (Bool.and_eq_true_iff.mpr ⟨?_, ?_⟩)⟩, ?_⟩
  · exact List.all_eq_true.mpr fun c member => decide_eq_true (spec member).1
  · rw [splitLabels_v4 small, List.all_map, List.all_eq_true]
    intro byte known
    simp only [Function.comp, (byteText_spec byte (bytes_lt small byte known)).2.2.2, Bool.not_false]
  · obtain ⟨-, some, digits, -⟩ := byteText_spec (n % 256) (Nat.mod_lt _ (by decide))
    obtain ⟨c, rest, shape⟩ := List.exists_cons_of_ne_nil some
    have last : lastLabel? (text (.v4 n)).toList = .some (byteText (n % 256)) := by
      unfold lastLabel?
      rw [splitLabels_v4 small]
      simp [bytes, shape]
    rw [endsInNumber, last, Option.any_some, digits, shape]
    rfl

/-! ### Eight pieces -/

/-- A list of pieces of sixteen bits. -/
def ArePieces (pieces : List Nat) : Prop := ∀ piece ∈ pieces, piece < 65536

private theorem hexDigit?_digitChar : ∀ d < 16, hexDigit? (Nat.digitChar d) = some d := by decide

private theorem mem_hexPiece {n : Nat} {c : Char} (member : c ∈ hexPiece n) : ∃ d < 16, c = Nat.digitChar d := by
  induction n using Nat.strongRecOn with
  | ind n ih =>
    unfold hexPiece at member
    by_cases small : n < 16
    · rw [Nat.toDigits_of_lt_base small] at member
      exact ⟨n, small, List.mem_singleton.mp member⟩
    · rw [Nat.toDigits_of_base_le (by decide) (by omega)] at member
      rcases List.mem_append.mp member with front | last
      · exact ih (n / 16) (by omega) front
      · exact ⟨n % 16, Nat.mod_lt _ (by decide), List.mem_singleton.mp last⟩

private theorem foldl_hexPiece (n : Nat) :
    (hexPiece n).foldl (fun n c => n * 16 + (hexDigit? c).getD 0) 0 = n := by
  induction n using Nat.strongRecOn with
  | ind n ih =>
    unfold hexPiece at ih ⊢
    by_cases small : n < 16
    · rw [Nat.toDigits_of_lt_base small]
      simp [hexDigit?_digitChar n small]
    · have last := hexDigit?_digitChar (n % 16) (Nat.mod_lt _ (by decide))
      rw [Nat.toDigits_of_base_le (by decide) (by omega), List.foldl_append, ih (n / 16) (by omega)]
      simp only [List.foldl_cons, List.foldl_nil, last, Option.getD_some]
      omega

private theorem hexPiece_isHex {n : Nat} {c : Char} (member : c ∈ hexPiece n) : (hexDigit? c).isSome = true := by
  obtain ⟨d, small, rfl⟩ := mem_hexPiece member
  rw [hexDigit?_digitChar d small]
  rfl

/-- A piece ends where no digit follows. -/
theorem readPiece_hexPiece {n : Nat} (small : n < 65536) {rest : List Char}
    (ends : ∀ c ∈ rest.head?, hexDigit? c = none) : readPiece (hexPiece n ++ rest) = some (n, rest) := by
  have short : (hexPiece n).length ≤ 4 := (Nat.length_toDigits_le_iff (by decide) (by decide)).mpr small
  have digits : ((hexPiece n ++ rest).take 4).takeWhile (fun c => (hexDigit? c).isSome) = hexPiece n := by
    have whole : (hexPiece n).take 4 = hexPiece n := List.take_of_length_le short
    rw [List.take_append, whole, List.takeWhile_append_of_pos fun c member => hexPiece_isHex member]
    cases rest with
    | nil => simp
    | cons c rest =>
      have none := ends c rfl
      cases 4 - (hexPiece n).length with
      | zero => simp
      | succ room => simp [none]
  have some : (hexPiece n).isEmpty = false := by
    rw [List.isEmpty_eq_false_iff]
    exact Nat.toDigits_ne_nil
  unfold readPiece
  rw [digits]
  dsimp only
  rw [some, foldl_hexPiece, List.drop_left]
  rfl

/-- The first character of a piece is no colon. -/
private theorem hexPiece_cons (n : Nat) : ∃ c rest, hexPiece n = c :: rest ∧ (c == ':') = false := by
  obtain ⟨c, rest, shape⟩ := List.exists_cons_of_ne_nil (Nat.toDigits_ne_nil (n := n) (b := 16))
  refine ⟨c, rest, shape, beq_eq_false_iff_ne.mpr ?_⟩
  rintro rfl
  have hex := hexPiece_isHex (n := n) (shape ▸ List.mem_cons_self)
  cases hex

private theorem readPieces_last {front : List Nat} {gap : Option Nat} {piece : Nat} (small : piece < 65536)
    (room : front.length + (if gap.isSome then 1 else 0) < 8) (fuel : Nat) :
    readPieces front gap (fuel + 1) (hexPiece piece) = some (front ++ [piece], gap) := by
  obtain ⟨c, rest, shape, letter⟩ := hexPiece_cons piece
  have read : readPiece (hexPiece piece ++ []) = some (piece, []) := readPiece_hexPiece small fun _ => nofun
  rw [List.append_nil, shape] at read
  rw [shape, readPieces]
  dsimp only
  rw [if_neg (by omega), letter, if_neg Bool.false_ne_true, read]
  rfl

private theorem readPieces_more {front : List Nat} {gap : Option Nat} {piece : Nat} (small : piece < 65536)
    (room : front.length + (if gap.isSome then 1 else 0) < 8) {more : List Char} (some : more ≠ []) (fuel : Nat) :
    readPieces front gap (fuel + 1) (hexPiece piece ++ ':' :: more) =
      readPieces (front ++ [piece]) gap fuel more := by
  obtain ⟨c, rest, shape, letter⟩ := hexPiece_cons piece
  have read : readPiece (hexPiece piece ++ ':' :: more) = .some (piece, ':' :: more) :=
    readPiece_hexPiece small fun c is => Option.some.inj is ▸ rfl
  obtain ⟨next, more, rfl⟩ := List.exists_cons_of_ne_nil some
  rw [shape, List.cons_append] at read ⊢
  rw [readPieces]
  dsimp only
  rw [if_neg (by omega), letter, if_neg Bool.false_ne_true, read]
  rfl

private theorem readPieces_colon {front : List Nat} (room : front.length < 8) (back : List Char) (fuel : Nat) :
    readPieces front none (fuel + 1) (':' :: back) = readPieces front (some front.length) fuel back := by
  rw [readPieces]
  dsimp only
  rw [if_neg (by simpa using room)]
  rfl

theorem joinPieces_cons (piece : List Char) {pieces : List (List Char)} (some : pieces ≠ []) :
    joinPieces (piece :: pieces) = piece ++ ':' :: joinPieces pieces := by
  cases pieces with
  | nil => exact absurd rfl some
  | cons => rfl

private theorem joinPieces_ne_nil {pieces : List Nat} (some : pieces ≠ []) :
    joinPieces (pieces.map hexPiece) ≠ [] := by
  obtain ⟨piece, rest, rfl⟩ := List.exists_cons_of_ne_nil some
  obtain ⟨c, digits, shape, -⟩ := hexPiece_cons piece
  cases rest with
  | nil => simp [joinPieces, shape]
  | cons => simp [joinPieces, shape]

/-- The pieces behind others, to the end of a text. -/
private theorem readPieces_join {front pieces : List Nat} {gap : Option Nat} (are : ArePieces pieces)
    (some : pieces ≠ []) (room : front.length + (if gap.isSome then 1 else 0) + pieces.length ≤ 8) {fuel : Nat}
    (enough : pieces.length ≤ fuel) :
    readPieces front gap fuel (joinPieces (pieces.map hexPiece)) = .some (front ++ pieces, gap) := by
  induction pieces generalizing front fuel with
  | nil => exact absurd rfl some
  | cons piece rest ih =>
    have ⟨here, later⟩ := List.forall_mem_cons.mp are
    rw [List.length_cons] at room enough
    obtain ⟨fuel, rfl⟩ : ∃ less, fuel = less + 1 := ⟨fuel - 1, by omega⟩
    by_cases last : rest = []
    · subst last
      exact readPieces_last here (by omega) fuel
    · rw [List.map_cons, joinPieces_cons _ (by simpa using last),
        readPieces_more here (by omega) (joinPieces_ne_nil last),
        ih later last (by rw [List.length_append, List.length_singleton]; omega) (by omega),
        List.append_assoc, List.singleton_append]

/-- The pieces before a double colon. -/
private theorem readPieces_gap {front pieces : List Nat} (are : ArePieces pieces) (some : pieces ≠ [])
    (room : front.length + pieces.length < 8) (back : List Char) (fuel : Nat) :
    readPieces front none (fuel + pieces.length + 1) (joinPieces (pieces.map hexPiece) ++ ':' :: ':' :: back) =
      readPieces (front ++ pieces) (.some (front ++ pieces).length) fuel back := by
  induction pieces generalizing front with
  | nil => exact absurd rfl some
  | cons piece rest ih =>
    have ⟨here, later⟩ := List.forall_mem_cons.mp are
    rw [List.length_cons] at room
    by_cases last : rest = []
    · subst last
      have full : (front ++ [piece]).length < 8 := by
        rw [List.length_append]
        simpa using room
      exact (readPieces_more here (by simp; omega) (List.cons_ne_nil _ _) _).trans (readPieces_colon full back _)
    · rw [List.map_cons, joinPieces_cons _ (by simpa using last), List.append_assoc, List.cons_append,
        List.length_cons, ← Nat.add_assoc, readPieces_more here (by simp; omega) (by simp),
        ih later last (by rw [List.length_append, List.length_singleton]; omega), List.append_assoc,
        List.singleton_append]

private theorem mem_joinPieces {pieces : List Nat} {c : Char} (member : c ∈ joinPieces (pieces.map hexPiece)) :
    c = ':' ∨ ∃ d < 16, c = Nat.digitChar d := by
  induction pieces with
  | nil => cases member
  | cons piece rest ih =>
    by_cases last : rest = []
    · subst last
      exact Or.inr (mem_hexPiece member)
    · rw [List.map_cons, joinPieces_cons _ (by simpa using last)] at member
      rcases List.mem_append.mp member with here | later
      · exact Or.inr (mem_hexPiece here)
      · rcases List.mem_cons.mp later with colon | later
        · exact Or.inl colon
        · exact ih later

theorem mem_v6Text {pieces : List Nat} {c : Char} (member : c ∈ v6Text pieces) :
    c = ':' ∨ ∃ d < 16, c = Nat.digitChar d := by
  unfold v6Text at member
  dsimp only at member
  split at member
  · exact mem_joinPieces member
  · rcases List.mem_append.mp member with front | back
    · exact mem_joinPieces front
    · rcases List.mem_cons.mp back with colon | back
      · exact Or.inl colon
      · rcases List.mem_cons.mp back with colon | back
        · exact Or.inl colon
        · exact mem_joinPieces back

/-- A stretch of zeros. -/
private def AreZeros (pieces : List Nat) (place length : Nat) : Prop :=
  pieces = pieces.take place ++ List.replicate length 0 ++ pieces.drop (place + length) ∧
    place + length ≤ pieces.length

private theorem areZeros_zerosAt {pieces : List Nat} {place : Nat} (inside : place ≤ pieces.length) :
    AreZeros pieces place (zerosAt pieces place) := by
  have split := List.takeWhile_append_dropWhile (p := (· == 0)) (l := pieces.drop place)
  have zeros : (pieces.drop place).takeWhile (· == 0) = List.replicate (zerosAt pieces place) 0 := by
    refine List.eq_replicate_of_mem fun piece member => ?_
    exact eq_of_beq (List.all_eq_true.mp List.all_takeWhile piece member)
  have rest : pieces.drop (place + zerosAt pieces place) = (pieces.drop place).dropWhile (· == 0) := by
    rw [← List.drop_drop, zerosAt]
    nth_rewrite 2 [← split]
    exact List.drop_left
  have short := (List.takeWhile_sublist (· == 0) (l := pieces.drop place)).length_le
  rw [List.length_drop] at short
  refine ⟨?_, ?_⟩
  · rw [← zeros, rest, List.append_assoc, split, List.take_append_drop]
  · unfold zerosAt
    omega

private theorem longestZeros_spec (pieces : List Nat) :
    AreZeros pieces (longestZeros pieces).1 (longestZeros pieces).2 ∧ (longestZeros pieces).2 ≠ 1 := by
  have each (places : List Nat) (inside : ∀ i ∈ places, i ≤ pieces.length) (best : Nat × Nat)
      (good : AreZeros pieces best.1 best.2 ∧ best.2 ≠ 1) :
      let last := places.foldl (fun best i =>
        if 1 < zerosAt pieces i && best.2 < zerosAt pieces i then (i, zerosAt pieces i) else best) best
      AreZeros pieces last.1 last.2 ∧ last.2 ≠ 1 := by
    induction places generalizing best with
    | nil => exact good
    | cons i rest ih =>
      have ⟨here, later⟩ := List.forall_mem_cons.mp inside
      refine ih later _ ?_
      dsimp only
      split
      next longer =>
        have many := of_decide_eq_true (Bool.and_eq_true_iff.mp longer).1
        exact ⟨areZeros_zerosAt here, Nat.ne_of_gt many⟩
      · exact good
  refine each (List.range pieces.length) (fun i member => ?_) (0, 0) ⟨⟨by simp, Nat.zero_le _⟩, by decide⟩
  exact Nat.le_of_lt (List.mem_range.mp member)

private theorem length_joinPieces (pieces : List Nat) :
    pieces.length ≤ (joinPieces (pieces.map hexPiece)).length := by
  induction pieces with
  | nil => exact Nat.zero_le _
  | cons piece rest ih =>
    obtain ⟨c, digits, shape, -⟩ := hexPiece_cons piece
    by_cases last : rest = []
    · subst last
      simp [joinPieces, shape]
    · rw [List.map_cons, joinPieces_cons _ (by simpa using last), shape]
      simp only [List.length_cons, List.length_append]
      omega

private theorem openGap?_join {pieces : List Nat} (some : pieces ≠ []) (back : List Char) :
    openGap? (joinPieces (pieces.map hexPiece) ++ back) = .some (none, joinPieces (pieces.map hexPiece) ++ back) := by
  obtain ⟨piece, rest, rfl⟩ := List.exists_cons_of_ne_nil some
  obtain ⟨c, digits, shape, letter⟩ := hexPiece_cons piece
  obtain ⟨more, join⟩ : ∃ more, joinPieces ((piece :: rest).map hexPiece) = c :: more := by
    by_cases last : rest = []
    · subst last
      exact ⟨digits, shape⟩
    · rw [List.map_cons, joinPieces_cons _ (by simpa using last), shape]
      exact ⟨_, rfl⟩
  rw [join, List.cons_append, openGap?]
  · rintro _ is
    cases (List.cons_eq_cons.mp is).1
    cases letter
  · rintro _ is
    cases (List.cons_eq_cons.mp is).1
    cases letter

/-- The pieces behind a gap, if any. -/
private theorem readPieces_back {front back : List Nat} (are : ArePieces back) {place : Nat}
    (room : front.length + 1 + back.length ≤ 8) {fuel : Nat} (enough : back.length < fuel) :
    readPieces front (some place) fuel (joinPieces (back.map hexPiece)) = some (front ++ back, some place) := by
  by_cases none : back = []
  · subst none
    obtain ⟨fuel, rfl⟩ : ∃ less, fuel = less + 1 := ⟨fuel - 1, by omega⟩
    simp [joinPieces, readPieces]
  · exact readPieces_join are none room (Nat.le_of_lt enough)

/-- The text of eight pieces reads back as these. -/
theorem v6?_v6Text {pieces : List Nat} (are : ArePieces pieces) (eight : pieces.length = 8) :
    v6? (v6Text pieces) = some pieces := by
  have some : pieces ≠ [] := by
    rintro rfl
    cases eight
  obtain ⟨⟨zeros, inside⟩, many⟩ := longestZeros_spec pieces
  unfold v6Text
  generalize longestZeros pieces = run at zeros inside many
  obtain ⟨place, length⟩ := run
  dsimp only at zeros inside many ⊢
  split
  · -- All eight are written.
    have long := length_joinPieces pieces
    have opens := openGap?_join some []
    rw [List.append_nil] at opens
    simp only [v6?, opens, Option.bind_eq_bind, Option.bind_some]
    rw [readPieces_join are some (by simp [eight]) (by omega)]
    simp [fillGap?, eight]
  next written =>
    have written : length ≠ 0 := fun none => written (beq_iff_eq.mpr none)
    -- The zeros are left out.
    have front : ArePieces (pieces.take place) := fun piece member => are piece (List.mem_of_mem_take member)
    have back : ArePieces (pieces.drop (place + length)) := fun piece member => are piece (List.mem_of_mem_drop member)
    have frontLength : (pieces.take place).length = place := List.length_take_of_le (by omega)
    have backLength : (pieces.drop (place + length)).length = 8 - (place + length) := by rw [List.length_drop, eight]
    have long := length_joinPieces (pieces.drop (place + length))
    have filled : fillGap? (pieces.take place ++ pieces.drop (place + length)) (.some place) = .some pieces := by
      have left : 8 - (pieces.take place ++ pieces.drop (place + length)).length = length := by
        rw [List.length_append, frontLength, backLength]
        omega
      rw [fillGap?, left, List.take_left' frontLength, List.drop_left' frontLength]
      exact congrArg Option.some zeros.symm
    generalize pieces.take place = before at front frontLength filled
    generalize pieces.drop (place + length) = after at back backLength long filled
    subst frontLength
    by_cases none : before = []
    · subst none
      rw [List.length_nil, Nat.zero_add] at backLength
      have reads : readPieces [] (.some 0) ((joinPieces (after.map hexPiece)).length + 1)
          (joinPieces (after.map hexPiece)) = .some ([] ++ after, .some 0) :=
        readPieces_back back (by rw [List.length_nil]; omega) (Nat.lt_succ_of_le long)
      simp only [v6?, List.map_nil, joinPieces, List.nil_append, openGap?, Option.bind_eq_bind, Option.bind_some, reads]
      exact filled
    · have opens := openGap?_join none (':' :: ':' :: joinPieces (after.map hexPiece))
      have whole := length_joinPieces before
      have reads : readPieces before (.some before.length)
          ((joinPieces (before.map hexPiece)).length - before.length + 2 + (joinPieces (after.map hexPiece)).length)
          (joinPieces (after.map hexPiece)) = .some (before ++ after, .some before.length) :=
        readPieces_back back (by omega) (by omega)
      have length : (joinPieces (before.map hexPiece) ++ ':' :: ':' :: joinPieces (after.map hexPiece)).length + 1 =
          (joinPieces (before.map hexPiece)).length - before.length + 2 + (joinPieces (after.map hexPiece)).length +
            before.length + 1 := by
        simp only [List.length_append, List.length_cons]
        omega
      simp only [v6?, opens, Option.bind_eq_bind, Option.bind_some]
      rw [length, readPieces_gap front none (by simp only [List.length_nil]; omega), List.nil_append, reads]
      exact filled

private theorem hexDigit?_lt {c : Char} {d : Nat} (read : hexDigit? c = some d) : d < 16 := by
  unfold hexDigit? at read
  split at read
  next digit =>
    cases read
    have below : c.toNat ≤ 57 := of_decide_eq_true (Bool.and_eq_true_iff.mp digit).2
    omega
  · split at read
    next small =>
      cases read
      have below : c.toNat ≤ 102 := of_decide_eq_true (Bool.and_eq_true_iff.mp small).2
      omega
    · split at read
      next capital =>
        cases read
        have below : c.toNat ≤ 70 := of_decide_eq_true (Bool.and_eq_true_iff.mp capital).2
        omega
      · cases read

private theorem readPiece_lt {text rest : List Char} {piece : Nat} (read : readPiece text = some (piece, rest)) :
    piece < 65536 := by
  unfold readPiece at read
  dsimp only at read
  have short : ((text.take 4).takeWhile fun c => (hexDigit? c).isSome).length ≤ 4 :=
    (List.takeWhile_sublist _).length_le.trans (List.length_take_le 4 text)
  generalize (text.take 4).takeWhile (fun c => (hexDigit? c).isSome) = digits at read short
  split at read
  · cases read
  · cases read
    have small : ∀ d ∈ digits.map fun c => (hexDigit? c).getD 0, d < 16 := by
      intro d member
      obtain ⟨c, -, rfl⟩ := List.mem_map.mp member
      cases is : hexDigit? c with
      | none => decide
      | some d => exact hexDigit?_lt is
    have below := foldl_lt small 0
    rw [List.foldl_map, List.length_map, Nat.zero_add, Nat.one_mul] at below
    exact Nat.lt_of_lt_of_le below (Nat.pow_le_pow_right (by decide) short)

private theorem readByte_lt {text rest : List Char} {byte : Nat} (read : readByte text = some (byte, rest)) :
    byte < 256 := by
  unfold readByte at read
  dsimp only at read
  split at read
  · cases read
  next fits =>
    cases read
    simp only [Bool.or_eq_true, decide_eq_true_eq, not_or] at fits
    omega

private theorem readEmbedded_spec {text : List Char} {last : List Nat} (read : readEmbedded text = some last) :
    ArePieces last ∧ last.length = 2 := by
  obtain ⟨⟨a, _⟩, first, read⟩ := Option.bind_eq_some_iff.mp read
  obtain ⟨_, -, read⟩ := Option.bind_eq_some_iff.mp read
  obtain ⟨⟨b, _⟩, second, read⟩ := Option.bind_eq_some_iff.mp read
  obtain ⟨_, -, read⟩ := Option.bind_eq_some_iff.mp read
  obtain ⟨⟨c, _⟩, third, read⟩ := Option.bind_eq_some_iff.mp read
  obtain ⟨_, -, read⟩ := Option.bind_eq_some_iff.mp read
  obtain ⟨⟨d, _⟩, fourth, read⟩ := Option.bind_eq_some_iff.mp read
  have := readByte_lt first
  have := readByte_lt second
  have := readByte_lt third
  have := readByte_lt fourth
  dsimp only at read
  split at read
  · cases read
    refine ⟨?_, rfl⟩
    simp only [ArePieces, List.forall_mem_cons]
    exact ⟨by omega, by omega, fun _ => nofun⟩
  · cases read

private theorem readPieces_spec {front pieces : List Nat} {gap gap' : Option Nat} {fuel : Nat} {text : List Char}
    (are : ArePieces front) (room : front.length ≤ 8) (read : readPieces front gap fuel text = some (pieces, gap')) :
    ArePieces pieces ∧ pieces.length ≤ 8 := by
  have append {front last : List Nat} (are : ArePieces front) (others : ArePieces last) : ArePieces (front ++ last) :=
    fun piece member => (List.mem_append.mp member).elim (are piece) (others piece)
  induction fuel generalizing front gap text with
  | zero => cases read
  | succ fuel ih =>
    cases text with
    | nil =>
      cases read
      exact ⟨are, room⟩
    | cons c rest =>
      rw [readPieces] at read
      dsimp only at read
      have some : front.length ≤ front.length + if gap.isSome then 1 else 0 := Nat.le_add_right _ _
      generalize front.length + (if gap.isSome then 1 else 0) = used at read some
      split at read
      · cases read
      next less =>
        split at read
        · split at read
          · cases read
          · exact ih are room read
        · obtain ⟨⟨piece, after⟩, first, read⟩ := Option.bind_eq_some_iff.mp read
          have one : ArePieces [piece] := List.forall_mem_singleton.mpr (readPiece_lt first)
          have room' : (front ++ [piece]).length ≤ 8 := by
            rw [List.length_append, List.length_singleton]
            omega
          dsimp only at read
          split at read
          · cases read
            exact ⟨append are one, room'⟩
          · split at read
            · cases read
            next fits =>
              obtain ⟨last, embedded, is⟩ := Option.map_eq_some_iff.mp read
              cases is
              obtain ⟨others, two⟩ := readEmbedded_spec embedded
              refine ⟨append are others, ?_⟩
              rw [List.length_append, two]
              omega
          · cases read
          · exact ih (append are one) room' read
          · cases read

/-- What was read are eight pieces. -/
theorem v6?_spec {text : List Char} {pieces : List Nat} (read : v6? text = some pieces) :
    ArePieces pieces ∧ pieces.length = 8 := by
  obtain ⟨⟨gap, text⟩, -, read⟩ := Option.bind_eq_some_iff.mp read
  obtain ⟨⟨found, gap⟩, inside, read⟩ := Option.bind_eq_some_iff.mp read
  have none : ArePieces [] := fun _ => nofun
  obtain ⟨are, few⟩ := readPieces_spec none (Nat.zero_le _) inside
  cases gap with
  | none =>
    simp only [fillGap?] at read
    split at read
    next eight =>
      cases read
      exact ⟨are, eq_of_beq eight⟩
    · cases read
  | some place =>
    cases read
    refine ⟨fun piece member => ?_, ?_⟩
    · rcases List.mem_append.mp member with front | back
      · rcases List.mem_append.mp front with front | zero
        · exact are piece (List.mem_of_mem_take front)
        · rw [List.eq_of_mem_replicate zero]
          decide
      · exact are piece (List.mem_of_mem_drop back)
    · simp only [List.length_append, List.length_take, List.length_replicate, List.length_drop]
      omega

end Harvest.Url.Host
