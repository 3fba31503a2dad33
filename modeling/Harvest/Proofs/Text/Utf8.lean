import Harvest.Proofs.Text.Ascii
import Harvest.Text.Utf8

/-!
Text as bytes. A text is read back from its bytes, and bytes that differ only in the case of letters in ASCII write
texts that do.
-/

namespace Harvest.Text.Utf8

/-! ### Texts as bytes -/

theorem toNat_byte {n : Nat} (small : n < 256) : n.toUInt8.toNat = n := Nat.mod_eq_of_lt small

theorem isTail_iff {b : UInt8} : isTail b = true ↔ 0x80 ≤ b.toNat ∧ b.toNat ≤ 0xBF := by
  simp [isTail, UInt8.le_iff_toNat_le]

theorem low_eq (b : UInt8) : low b = b.toNat % 64 := by
  rw [low, UInt8.toNat_and]
  exact Nat.and_two_pow_sub_one_eq_mod b.toNat 6

theorem low_lt (b : UInt8) : low b < 64 := by
  rw [low_eq]
  exact Nat.mod_lt _ (by decide)

/-- The byte of six bits behind the first byte of a character. -/
def tailByte (bits : Nat) : UInt8 := (0x80 + bits % 64).toUInt8

theorem toNat_tailByte (bits : Nat) : (tailByte bits).toNat = 0x80 + bits % 64 := toNat_byte (by omega)

theorem isTail_tailByte (bits : Nat) : isTail (tailByte bits) = true := by
  rw [isTail_iff, toNat_tailByte]
  omega

theorem low_tailByte (bits : Nat) : low (tailByte bits) = bits % 64 := by
  rw [low_eq, toNat_tailByte]
  omega

/-- A tail is the byte of its bits. -/
theorem tailByte_eq {b : UInt8} {bits : Nat} (tail : isTail b = true) (same : bits % 64 = low b) :
    tailByte bits = b := by
  have range := isTail_iff.mp tail
  rw [← UInt8.toNat_inj, toNat_tailByte, same, low_eq]
  omega

/-- A second byte is a tail, and one with which the character could not be written shorter, is not half of a pair and
does not lie beyond the last one. -/
theorem second_iff {lead b : UInt8} : second lead b = true ↔ isTail b = true ∧
    (lead.toNat = 0xE0 → 32 ≤ low b) ∧ (lead.toNat = 0xED → low b < 32) ∧
    (lead.toNat = 0xF0 → 16 ≤ low b) ∧ (lead.toNat = 0xF4 → low b < 16) := by
  have same (byte : UInt8) : (lead == byte) = true ↔ lead.toNat = byte.toNat := by
    rw [beq_iff_eq, UInt8.toNat_inj]
  simp only [second, same, low_eq, UInt8.reduceToNat]
  -- Each of the four special lead bytes has a range of its own, and so one of the four conditions.
  split_ifs
  all_goals
    simp only [isTail_iff, Bool.and_eq_true, decide_eq_true_eq, UInt8.le_iff_toNat_le, UInt8.reduceToNat]
    omega

/-- Where a first byte stands among the bounds that tell how many bytes follow. -/
private theorem lead_bounds {lead : UInt8} {n : Nat} (number : lead.toNat = n) (large : 0xC2 ≤ n) (fits : n ≤ 0xF4) :
    ¬lead < 0x80 ∧ ¬(lead < 0xC2 || 0xF4 < lead) = true ∧ (lead < 0xE0 ↔ n < 0xE0) ∧ (lead < 0xF0 ↔ n < 0xF0) := by
  simp only [UInt8.lt_iff_toNat_lt, number, Bool.or_eq_true, decide_eq_true_eq, UInt8.reduceToNat, and_true]
  omega

section

variable (rest : List UInt8)

private theorem head_one {n : Nat} (small : n < 0x80) : head n.toUInt8 rest = .char (Char.ofNat n) 1 := by
  have number : n.toUInt8.toNat = n := toNat_byte (by omega)
  have first : n.toUInt8 < 0x80 := by
    rw [UInt8.lt_iff_toNat_lt, number]
    exact small
  unfold head
  rw [if_pos first, number]

private theorem head_two {n : Nat} (large : 0x80 ≤ n) (small : n < 0x800) :
    head (0xC0 + n / 64).toUInt8 (tailByte n :: rest) = .char (Char.ofNat n) 2 := by
  have number : (0xC0 + n / 64).toUInt8.toNat = 0xC0 + n / 64 := toNat_byte (by omega)
  obtain ⟨many, known, two, -⟩ := lead_bounds number (by omega) (by omega)
  have sum : (0xC0 + n / 64 - 0xC0) * 64 + n % 64 = n := by omega
  unfold head
  rw [if_neg many, if_neg known]
  dsimp only
  rw [if_pos (two.mpr (by omega)), if_pos (isTail_tailByte n), number, low_tailByte, sum]

private theorem head_three {n : Nat} (large : 0x800 ≤ n) (small : n < 0x10000) (single : n < 0xD800 ∨ 0xDFFF < n) :
    head (0xE0 + n / 4096).toUInt8 (tailByte (n / 64) :: tailByte n :: rest) = .char (Char.ofNat n) 3 := by
  have number : (0xE0 + n / 4096).toUInt8.toNat = 0xE0 + n / 4096 := toNat_byte (by omega)
  obtain ⟨many, known, two, three⟩ := lead_bounds number (by omega) (by omega)
  have bits : low (tailByte (n / 64)) = n / 64 % 64 := low_tailByte _
  have fits : second (0xE0 + n / 4096).toUInt8 (tailByte (n / 64)) = true :=
    second_iff.mpr ⟨isTail_tailByte _, by omega⟩
  have sum : (0xE0 + n / 4096 - 0xE0) * 4096 + n / 64 % 64 * 64 + n % 64 = n := by omega
  unfold head
  rw [if_neg many, if_neg known]
  dsimp only
  rw [if_neg (two.not.mpr (by omega)), fits, if_neg (by decide), isTail_tailByte, if_neg (by decide),
    if_pos (three.mpr (by omega)), number, low_tailByte, low_tailByte, sum]

private theorem head_four {n : Nat} (large : 0x10000 ≤ n) (small : n < 0x110000) :
    head (0xF0 + n / 262144).toUInt8 (tailByte (n / 4096) :: tailByte (n / 64) :: tailByte n :: rest) =
      .char (Char.ofNat n) 4 := by
  have number : (0xF0 + n / 262144).toUInt8.toNat = 0xF0 + n / 262144 := toNat_byte (by omega)
  obtain ⟨many, known, two, three⟩ := lead_bounds number (by omega) (by omega)
  have bits : low (tailByte (n / 4096)) = n / 4096 % 64 := low_tailByte _
  have fits : second (0xF0 + n / 262144).toUInt8 (tailByte (n / 4096)) = true :=
    second_iff.mpr ⟨isTail_tailByte _, by omega⟩
  have sum : (0xF0 + n / 262144 - 0xF0) * 262144 + n / 4096 % 64 * 4096 + n / 64 % 64 * 64 + n % 64 = n := by omega
  unfold head
  rw [if_neg many, if_neg known]
  dsimp only
  rw [if_neg (two.not.mpr (by omega)), fits, if_neg (by decide), isTail_tailByte, if_neg (by decide),
    if_neg (three.not.mpr (by omega)), isTail_tailByte, if_pos rfl, number, low_tailByte, low_tailByte,
    low_tailByte, sum]

theorem encodeChar_ofNat {n : Nat} (valid : n.isValidChar) : encodeChar (Char.ofNat n) =
    if n < 0x80 then [n.toUInt8]
    else if n < 0x800 then [(0xC0 + n / 64).toUInt8, tailByte n]
    else if n < 0x10000 then [(0xE0 + n / 4096).toUInt8, tailByte (n / 64), tailByte n]
    else [(0xF0 + n / 262144).toUInt8, tailByte (n / 4096), tailByte (n / 64), tailByte n] := by
  have number : (Char.ofNat n).toNat = n := by
    rw [Char.ofNat, dif_pos valid]
    rfl
  have last : (0x80 + n / Nat.pow 64 0 % 64).toUInt8 = tailByte n := by
    change (0x80 + n / 1 % 64).toUInt8 = _
    rw [Nat.div_one, tailByte]
  unfold encodeChar
  rw [number]
  dsimp only
  rw [last]
  rfl

/-- The bytes of a character read as the character, whatever follows. -/
theorem head_encodeChar (c : Char) :
    ∃ lead tails, encodeChar c = lead :: tails ∧ head lead (tails ++ rest) = .char c (tails.length + 1) := by
  have valid : c.toNat < 0xD800 ∨ 0xDFFF < c.toNat ∧ c.toNat < 0x110000 := c.valid
  have bytes := encodeChar_ofNat valid
  rw [Char.ofNat_toNat] at bytes
  have same (length : Nat) : Head.char (Char.ofNat c.toNat) length = .char c length := by rw [Char.ofNat_toNat]
  rw [bytes]
  split
  next one => exact ⟨_, _, rfl, (head_one rest one).trans (same 1)⟩
  split
  next many two => exact ⟨_, _, rfl, (head_two rest (Nat.not_lt.mp many) two).trans (same 2)⟩
  split
  next many three => exact ⟨_, _, rfl, (head_three rest (Nat.not_lt.mp many) three (by omega)).trans (same 3)⟩
  next many => exact ⟨_, _, rfl, (head_four rest (Nat.not_lt.mp many) (by omega)).trans (same 4)⟩

private theorem bytes_two {lead b : UInt8} (first : 0xC2 ≤ lead.toNat) (last : lead.toNat < 0xE0)
    (tail : isTail b = true) : encodeChar (Char.ofNat ((lead.toNat - 0xC0) * 64 + low b)) = [lead, b] := by
  have bits := low_lt b
  have own : 0xC0 + ((lead.toNat - 0xC0) * 64 + low b) / 64 = lead.toNat := by omega
  rw [encodeChar_ofNat (Or.inl (by omega)), if_neg (by omega), if_pos (by omega), own, tailByte_eq tail (by omega)]
  simp

private theorem bytes_three {lead b c : UInt8} (first : 0xE0 ≤ lead.toNat) (last : lead.toNat < 0xF0)
    (fits : second lead b = true) (tail : isTail c = true) :
    encodeChar (Char.ofNat ((lead.toNat - 0xE0) * 4096 + low b * 64 + low c)) = [lead, b, c] := by
  obtain ⟨tail', admitted⟩ := second_iff.mp fits
  have bits := low_lt b
  have bits' := low_lt c
  have valid : ((lead.toNat - 0xE0) * 4096 + low b * 64 + low c).isValidChar := by
    unfold Nat.isValidChar
    omega
  have own : 0xE0 + ((lead.toNat - 0xE0) * 4096 + low b * 64 + low c) / 4096 = lead.toNat := by omega
  rw [encodeChar_ofNat valid, if_neg (by omega), if_neg (by omega), if_pos (by omega), own,
    tailByte_eq tail' (by omega), tailByte_eq tail (by omega)]
  simp

private theorem bytes_four {lead b c d : UInt8} (first : 0xF0 ≤ lead.toNat) (last : lead.toNat ≤ 0xF4)
    (fits : second lead b = true) (tail : isTail c = true) (tail' : isTail d = true) :
    encodeChar (Char.ofNat ((lead.toNat - 0xF0) * 262144 + low b * 4096 + low c * 64 + low d)) =
      [lead, b, c, d] := by
  obtain ⟨tail'', admitted⟩ := second_iff.mp fits
  have bits := low_lt b
  have bits' := low_lt c
  have bits'' := low_lt d
  have valid : ((lead.toNat - 0xF0) * 262144 + low b * 4096 + low c * 64 + low d).isValidChar := by
    unfold Nat.isValidChar
    omega
  have own : 0xF0 + ((lead.toNat - 0xF0) * 262144 + low b * 4096 + low c * 64 + low d) / 262144 = lead.toNat := by
    omega
  rw [encodeChar_ofNat valid, if_neg (by omega), if_neg (by omega), if_neg (by omega), own,
    tailByte_eq tail'' (by omega), tailByte_eq tail (by omega), tailByte_eq tail' (by omega)]
  simp

/-- What reads as a character is the bytes of the character. -/
theorem head_eq_char {lead : UInt8} {rest : List UInt8} {c : Char} {length : Nat}
    (read : head lead rest = .char c length) :
    ∃ tails back, rest = tails ++ back ∧ length = tails.length + 1 ∧ encodeChar c = lead :: tails := by
  unfold head at read
  split at read
  next one =>
    have small : lead.toNat < 0x80 := UInt8.lt_iff_toNat_lt.mp one
    cases read
    refine ⟨[], rest, rfl, rfl, ?_⟩
    rw [encodeChar_ofNat (Or.inl (by omega)), if_pos small]
    simp
  split at read
  · cases read
  next known =>
  simp only [Bool.or_eq_true, decide_eq_true_eq, not_or, UInt8.not_lt, UInt8.le_iff_toNat_le,
    UInt8.reduceToNat] at known
  split at read
  · cases read
  next b rest =>
  split at read
  next two =>
    split at read
    next tail =>
      cases read
      exact ⟨[b], rest, rfl, rfl, bytes_two known.1 (UInt8.lt_iff_toNat_lt.mp two) tail⟩
    · cases read
  next more =>
  have more : 0xE0 ≤ lead.toNat := UInt8.le_iff_toNat_le.mp (UInt8.not_lt.mp more)
  split at read
  · cases read
  next fits =>
  have fits : second lead b = true := by simpa using fits
  split at read
  · cases read
  next c rest =>
  split at read
  · cases read
  next tail =>
  have tail : isTail c = true := by simpa using tail
  split at read
  next three =>
    cases read
    exact ⟨[b, c], rest, rfl, rfl, bytes_three more (UInt8.lt_iff_toNat_lt.mp three) fits tail⟩
  next four =>
  split at read
  · cases read
  next d rest =>
  split at read
  next tail' =>
    cases read
    exact ⟨[b, c, d], rest, rfl, rfl,
      bytes_four (UInt8.le_iff_toNat_le.mp (UInt8.not_lt.mp four)) known.2 fits tail tail'⟩
  · cases read

private theorem decodeFrom_skip (done : List Char) (tails : List UInt8) :
    decodeFrom done tails.length (tails ++ rest) = decodeFrom done 0 rest := by
  induction tails with
  | nil => rfl
  | cons _ tails ih => rw [List.length_cons, List.cons_append, decodeFrom, ih]

end

private theorem decodeFrom_encode (done text : List Char) :
    decodeFrom done 0 (encode text) = some (done.reverse ++ text) := by
  induction text generalizing done with
  | nil => simp [encode, decodeFrom]
  | cons c rest ih =>
    obtain ⟨lead, tails, bytes, first⟩ := head_encodeChar (encode rest) c
    have split : encode (c :: rest) = lead :: (tails ++ encode rest) := by
      rw [encode, List.flatMap_cons, bytes]
      rfl
    rw [split, decodeFrom, first]
    dsimp only
    rw [Nat.add_sub_cancel, decodeFrom_skip, ih, List.reverse_cons, List.append_assoc]
    rfl

theorem decode?_encode (text : List Char) : decode? (encode text) = some text := decodeFrom_encode [] text

/-- Bytes decode to the one text they write. -/
theorem decode?_eq_some_iff {bytes : List UInt8} {text : List Char} :
    decode? bytes = some text ↔ bytes = encode text := by
  refine ⟨fun read => ?_, fun same => same ▸ decode?_encode text⟩
  suffices from_ : ∀ bytes done text, decodeFrom done 0 bytes = some text →
      ∃ more, text = done.reverse ++ more ∧ bytes = encode more by
    obtain ⟨more, same, written⟩ := from_ bytes [] text read
    rw [written, same]
    rfl
  intro bytes
  -- On the length, since a character takes several bytes at once.
  induction size : bytes.length using Nat.strongRecOn generalizing bytes with
  | ind size ih =>
    intro done text read
    cases bytes with
    | nil => exact ⟨[], by rw [List.append_nil, Option.some_inj.mp read], rfl⟩
    | cons lead rest =>
      rw [decodeFrom] at read
      cases first : head lead rest with
      | broken length =>
        rw [first] at read
        cases read
      | char c length =>
        obtain ⟨tails, back, rfl, rfl, bytes⟩ := head_eq_char first
        rw [first] at read
        dsimp only at read
        rw [Nat.add_sub_cancel, decodeFrom_skip] at read
        rw [List.length_cons, List.length_append] at size
        obtain ⟨more, same, written⟩ := ih back.length (by omega) back rfl _ _ read
        refine ⟨c :: more, ?_, ?_⟩
        · rw [same, List.reverse_cons, List.append_assoc]
          rfl
        · rw [encode, List.flatMap_cons, bytes, written]
          rfl

/-- Where nothing is broken, nothing is replaced. -/
theorem decodeLossy_of_decode? {bytes : List UInt8} {text : List Char} (whole : decode? bytes = some text) :
    decodeLossy bytes = text := by
  suffices from_ : ∀ done skip, decodeFrom done skip bytes = some text → decodeLossyFrom done skip bytes = text from
    from_ [] 0 whole
  clear whole
  induction bytes with
  | nil =>
    intro done skip read
    cases skip <;> exact Option.some_inj.mp read
  | cons lead rest ih =>
    intro done skip read
    cases skip with
    | succ skip => exact ih done skip read
    | zero =>
      rw [decodeFrom] at read
      rw [decodeLossyFrom]
      cases first : head lead rest with
      | char c length =>
        rw [first] at read
        exact ih _ _ read
      | broken length =>
        rw [first] at read
        cases read

/-! ### Letter case -/

/-- A byte, a capital letter in its small form. -/
def lowerByte (b : UInt8) : UInt8 := if 65 ≤ b && b ≤ 90 then b + 32 else b

private theorem toNat_lowerByte (b : UInt8) :
    (lowerByte b).toNat = if 65 ≤ b.toNat ∧ b.toNat ≤ 90 then b.toNat + 32 else b.toNat := by
  have capital : (65 ≤ b && b ≤ 90) = true ↔ 65 ≤ b.toNat ∧ b.toNat ≤ 90 := by simp [UInt8.le_iff_toNat_le]
  rw [lowerByte, ite_congr (propext capital) (fun _ => rfl) fun _ => rfl]
  split
  · rw [UInt8.toNat_add]
    exact Nat.mod_eq_of_lt (by simp; omega)
  · rfl

private theorem lowerByte_spec (b : UInt8) : lowerByte b = b ∨ b < 0x80 ∧ lowerByte b < 0x80 := by
  have number := toNat_lowerByte b
  simp only [← UInt8.toNat_inj, UInt8.lt_iff_toNat_lt, UInt8.reduceToNat]
  split at number
  · exact Or.inr (by omega)
  · exact Or.inl number

private theorem isTail_of_lt {b : UInt8} (small : b < 0x80) : isTail b = false := by
  have small : b.toNat < 0x80 := UInt8.lt_iff_toNat_lt.mp small
  rw [← Bool.not_eq_true, isTail_iff]
  omega

/-- A tail stays itself, and no other byte becomes one. -/
private theorem tail_cases (b : UInt8) : isTail b = true ∧ lowerByte b = b ∨
    isTail b = false ∧ isTail (lowerByte b) = false := by
  cases is : isTail b with
  | true =>
    refine Or.inl ⟨rfl, (lowerByte_spec b).resolve_right fun small => ?_⟩
    rw [isTail_of_lt small.1] at is
    cases is
  | false =>
    refine Or.inr ⟨rfl, ?_⟩
    rcases lowerByte_spec b with same | small
    · rw [same, is]
    · exact isTail_of_lt small.2

private theorem lowerAscii_ofNat {n : Nat} (large : 128 ≤ n) : lowerAscii (Char.ofNat n) = Char.ofNat n := by
  by_cases valid : n.isValidChar
  · have number : (Char.ofNat n).toNat = n := by
      rw [Char.ofNat, dif_pos valid]
      rfl
    refine if_neg fun capital => ?_
    have small : (Char.ofNat n).toNat ≤ 90 := capital.2
    omega
  · rw [Char.ofNat, dif_neg valid]
    rfl

def Head.lower : Head → Head
  | .char c length => .char (lowerAscii c) length
  | .broken length => .broken length

private theorem second_cases (lead b : UInt8) : second lead b = true ∧ lowerByte b = b ∨
    second lead b = false ∧ second lead (lowerByte b) = false := by
  rcases tail_cases b with ⟨-, same⟩ | ⟨other, others⟩
  · rw [same]
    cases second lead b
    · exact Or.inr ⟨rfl, rfl⟩
    · exact Or.inl ⟨rfl, rfl⟩
  · have strict {x : UInt8} (noTail : isTail x = false) : second lead x = false :=
      Bool.eq_false_iff.mpr fun fits => Bool.false_ne_true (noTail.symm.trans (second_iff.mp fits).1)
    exact Or.inr ⟨strict other, strict others⟩

/-- What is written in three bytes is no letter in ASCII. -/
private theorem three_large {lead b : UInt8} (fits : second lead b = true) (three : ¬ lead < 0xE0) (c : UInt8) :
    128 ≤ (lead.toNat - 0xE0) * 4096 + low b * 64 + low c := by
  have above : 0xE0 ≤ lead.toNat := UInt8.le_iff_toNat_le.mp (UInt8.not_lt.mp three)
  have least := (second_iff.mp fits).2.1
  omega

private theorem four_large {lead b : UInt8} (fits : second lead b = true) (four : ¬ lead < 0xF0) (c d : UInt8) :
    128 ≤ (lead.toNat - 0xF0) * 262144 + low b * 4096 + low c * 64 + low d := by
  have above : 0xF0 ≤ lead.toNat := UInt8.le_iff_toNat_le.mp (UInt8.not_lt.mp four)
  have least := (second_iff.mp fits).2.2.2.1
  omega

private theorem head_ascii {lead : UInt8} (small : lead < 0x80) (rest : List UInt8) :
    head (lowerByte lead) rest = .char (lowerAscii (Char.ofNat lead.toNat)) 1 := by
  have letters : ∀ n < 128, Char.ofNat (if 65 ≤ n ∧ n ≤ 90 then n + 32 else n) = lowerAscii (Char.ofNat n) := by decide
  have within : lead.toNat < 128 := UInt8.lt_iff_toNat_lt.mp small
  have small' : lowerByte lead < 0x80 := by
    rcases lowerByte_spec lead with same | letter
    · rwa [same]
    · exact letter.2
  unfold head
  rw [if_pos small', toNat_lowerByte, letters lead.toNat within]

/-- The case splits follow the bytes: each is a tail, which stays, or breaks the sequence either way. -/
private theorem head_lower (lead : UInt8) (rest : List UInt8) :
    head (lowerByte lead) (rest.map lowerByte) = (head lead rest).lower := by
  by_cases small : lead < 0x80
  · rw [head_ascii small]
    unfold head
    rw [if_pos small]
    rfl
  have same : lowerByte lead = lead := (lowerByte_spec lead).resolve_right fun letter => small letter.1
  rw [same]
  unfold head
  rw [if_neg small, if_neg small]
  by_cases outside : (lead < 0xC2 || 0xF4 < lead) = true
  · rw [if_pos outside, if_pos outside]
    rfl
  rw [if_neg outside, if_neg outside]
  have least : 0xC2 ≤ lead.toNat := by
    simp only [Bool.or_eq_true, decide_eq_true_eq, not_or, UInt8.not_lt, UInt8.le_iff_toNat_le] at outside
    exact outside.1
  cases rest with
  | nil => rfl
  | cons b rest =>
    rw [List.map_cons]
    dsimp only
    by_cases two : lead < 0xE0
    · rw [if_pos two, if_pos two]
      rcases tail_cases b with ⟨tail, same⟩ | ⟨other, others⟩
      · rw [same, tail, if_pos rfl, Head.lower, lowerAscii_ofNat (by omega)]
      · rw [other, others]
        rfl
    rw [if_neg two, if_neg two]
    rcases second_cases lead b with ⟨fits, same⟩ | ⟨other, others⟩
    · rw [same, fits]
      cases rest with
      | nil => rfl
      | cons c rest =>
        rw [List.map_cons]
        dsimp only
        rcases tail_cases c with ⟨tail, same⟩ | ⟨other, others⟩
        · rw [same, tail]
          by_cases three : lead < 0xF0
          · rw [if_pos three, if_pos three]
            simp only [Bool.not_true, Bool.false_eq_true, if_false, Head.lower,
              lowerAscii_ofNat (three_large fits two c)]
          rw [if_neg three, if_neg three]
          cases rest with
          | nil => rfl
          | cons d rest =>
            rw [List.map_cons]
            dsimp only
            rcases tail_cases d with ⟨tail, same⟩ | ⟨other, others⟩
            · rw [same, tail]
              simp only [Bool.not_true, Bool.false_eq_true, if_false, if_true, Head.lower,
                lowerAscii_ofNat (four_large fits three c d)]
            · rw [other, others]
              rfl
        · rw [other, others]
          rfl
    · rw [other, others]
      rfl

theorem decode?_lower (bytes : List UInt8) :
    decode? (bytes.map lowerByte) = (decode? bytes).map (List.map lowerAscii) := by
  suffices from_ : ∀ done skip, decodeFrom (done.map lowerAscii) skip (bytes.map lowerByte) =
      (decodeFrom done skip bytes).map (List.map lowerAscii) from from_ [] 0
  induction bytes with
  | nil =>
    intro done skip
    cases skip <;> simp [decodeFrom]
  | cons lead rest ih =>
    intro done skip
    cases skip with
    | zero =>
      rw [List.map_cons, decodeFrom, decodeFrom, head_lower]
      cases head lead rest with
      | char c length => exact ih (c :: done) (length - 1)
      | broken length => rfl
    | succ skip => exact ih done skip

theorem encodeChar_lower (c : Char) :
    (encodeChar (lowerAscii c)).map lowerByte = (encodeChar c).map lowerByte :=
  Text.lowerAscii_invariant (f := fun c => (encodeChar c).map lowerByte) (by decide +kernel) c

end Harvest.Text.Utf8
