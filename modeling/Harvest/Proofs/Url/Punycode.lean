import Harvest.Url.Punycode
import Mathlib.Data.List.Basic
import Mathlib.Data.List.TakeWhile
import Mathlib.Tactic.Ring

/-!
An encoded label decodes to the label. While the encoder inserts a letter, the decoder that has read all numbers
written so far holds the lesser letters of the whole label and, of those visited, the letter itself; the
encoder's delta is how many steps the decoder is behind.
-/

namespace Harvest.Url.Punycode

/-! ### Numbers -/

def IsDigit (c : Char) : Prop := ∃ d < 36, c = digitChar d

theorem digitValue?_digitChar : ∀ d < 36, digitValue? (digitChar d) = some d := by decide

theorem threshold_pos (k bias : Nat) : 0 < threshold k bias := by
  unfold threshold
  split
  · exact Nat.one_pos
  · split <;> omega

theorem threshold_lt (k bias : Nat) : threshold k bias < 36 := by
  unfold threshold
  split
  · decide
  · split <;> omega

/-- The digit that another one follows. -/
private theorem digit_lt (k bias q : Nat) :
    threshold k bias + (q - threshold k bias) % (36 - threshold k bias) < 36 := by
  have small := threshold_lt k bias
  have rest : (q - threshold k bias) % (36 - threshold k bias) < 36 - threshold k bias := Nat.mod_lt _ (by omega)
  omega

private theorem quotient_lt {k bias q fuel : Nat} (more : ¬ q < threshold k bias) (enough : q < fuel + 1) :
    (q - threshold k bias) / (36 - threshold k bias) < fuel := by
  have pos := threshold_pos k bias
  have less := Nat.div_le_self (q - threshold k bias) (36 - threshold k bias)
  omega

theorem writeDigits_isDigit (bias k q fuel : Nat) : ∀ c ∈ writeDigits bias k q fuel, IsDigit c := by
  induction fuel generalizing k q with
  | zero => exact fun _ => nofun
  | succ fuel ih =>
    have small := threshold_lt k bias
    rw [writeDigits]
    split
    next last => exact List.forall_mem_singleton.mpr ⟨q, by omega, rfl⟩
    · exact List.forall_mem_cons.mpr ⟨⟨_, digit_lt k bias q, rfl⟩, ih _ _⟩

theorem readDigits_writeDigits (bias : Nat) {k q fuel : Nat} (enough : q < fuel) (weight sum : Nat)
    (rest : List Char) :
    readDigits bias k weight sum (writeDigits bias k q fuel ++ rest) = some (sum + q * weight, rest) := by
  induction fuel generalizing k q weight sum with
  | zero => cases enough
  | succ fuel ih =>
    have small := threshold_lt k bias
    rw [writeDigits]
    split
    next last =>
      rw [List.singleton_append, readDigits, digitValue?_digitChar q (by omega)]
      exact if_pos last
    next more =>
      have digit := digit_lt k bias q
      rw [List.cons_append, readDigits, digitValue?_digitChar _ digit]
      dsimp only
      rw [if_neg (by omega), ih (quotient_lt more enough)]
      have parts := Nat.mod_add_div (q - threshold k bias) (36 - threshold k bias)
      generalize (q - threshold k bias) % (36 - threshold k bias) = low at parts ⊢
      generalize (q - threshold k bias) / (36 - threshold k bias) = high at parts ⊢
      have whole : q = threshold k bias + low + (36 - threshold k bias) * high := by omega
      rw [Option.some.injEq, Prod.mk.injEq]
      refine ⟨?_, rfl⟩
      rw [whole]
      generalize 36 - threshold k bias = base
      ring

theorem readNumber_writeNumber (bias q : Nat) (rest : List Char) :
    readNumber bias (writeNumber bias q ++ rest) = some (q, rest) := by
  unfold readNumber writeNumber
  rw [readDigits_writeDigits bias (Nat.lt_succ_self q)]
  simp

/-! ### The decoder behind the encoder -/

/-- What the encoder writes from one state to the next takes the decoder from one state to the next. -/
def Sends (e e' : Encoder) (d d' : Decoder) : Prop :=
  ∃ sent, e'.written = sent.reverse ++ e.written ∧ (∀ c ∈ sent, IsDigit c) ∧
    ∀ more fuel, (sent ++ more).length ≤ fuel → ∃ fuel', more.length ≤ fuel' ∧
      decodeFrom d fuel (sent ++ more) = decodeFrom d' fuel' more

theorem Sends.nothing {e e' : Encoder} (same : e'.written = e.written) (d : Decoder) : Sends e e' d d :=
  ⟨[], same, fun _ => nofun, fun _ fuel enough => ⟨fuel, enough, rfl⟩⟩

theorem Sends.trans {e e' e'' : Encoder} {d d' d'' : Decoder} (first : Sends e e' d d')
    (second : Sends e' e'' d' d'') : Sends e e'' d d'' := by
  obtain ⟨sent, written, digits, reads⟩ := first
  obtain ⟨sent', written', digits', reads'⟩ := second
  refine ⟨sent ++ sent', ?_, ?_, fun more fuel enough => ?_⟩
  · rw [written', written, List.reverse_append, List.append_assoc]
  · exact fun c member => (List.mem_append.mp member).elim (digits c) (digits' c)
  · rw [List.append_assoc] at enough ⊢
    obtain ⟨fuel', enough', same⟩ := reads (sent' ++ more) fuel enough
    obtain ⟨fuel'', enough'', same'⟩ := reads' more fuel' enough'
    exact ⟨fuel'', enough'', same.trans same'⟩

/-- A number that is sent makes the decoder insert a letter. -/
theorem Sends.number {e e' : Encoder} {d d' : Decoder} (bias : d.bias = e.bias)
    (written : e'.written = (writeNumber e.bias e.delta).reverse ++ e.written)
    (inserts : d.insert? e.delta = some d') : Sends e e' d d' := by
  refine ⟨writeNumber e.bias e.delta, written, writeDigits_isDigit _ _ _ _, fun more fuel enough => ?_⟩
  obtain ⟨c, digits, shape⟩ : ∃ c digits, writeNumber e.bias e.delta = c :: digits := by
    unfold writeNumber writeDigits
    dsimp only
    split
    · exact ⟨_, _, rfl⟩
    · exact ⟨_, _, rfl⟩
  have reads := readNumber_writeNumber e.bias e.delta more
  rw [shape, List.cons_append] at reads enough ⊢
  cases fuel with
  | zero => cases enough
  | succ fuel =>
    refine ⟨fuel, ?_, ?_⟩
    · simp only [List.length_cons, List.length_append] at enough
      omega
    · rw [decodeFrom, bias, reads, Option.bind_eq_bind, Option.bind_some]
      · dsimp only
        rw [inserts]
        rfl
      · exact nofun

/-- The decoder follows an encoder that is inserting the letter `m` and has seen a part of the label. -/
structure Trails (basic m : Nat) (seen rest : List Char) (e : Encoder) (d : Decoder) : Prop where
  label : d.label = seen.filter (·.toNat ≤ m) ++ rest.filter (·.toNat < m)
  handled : e.handled = d.label.length
  bias : d.bias = e.bias
  letter : d.letter ≤ m
  behind : d.place + e.delta =
    (m - d.letter) * (d.label.length + 1) + (seen.filter (·.toNat ≤ m)).length
  first : d.place = 0 ↔ e.handled = basic
  started : basic ≤ e.handled

namespace Trails

variable {basic m n : Nat} {seen rest label : List Char} {c : Char} {e : Encoder} {d : Decoder}

/-- The decoder puts the letter between what was seen and the rest. -/
private theorem insert (trails : Trails basic c.toNat seen (c :: rest) e d) :
    d.insert? e.delta = some
      { label := seen.filter (·.toNat ≤ c.toNat) ++ c :: rest.filter (·.toNat < c.toNat)
        letter := c.toNat
        place := (seen.filter (·.toNat ≤ c.toNat)).length + 1
        bias := adapt e.delta (e.handled + 1) (e.handled == basic) } := by
  obtain ⟨label, handled, -, letter, behind, first, -⟩ := trails
  rw [List.filter_cons_of_neg (by simp)] at label
  have front : (seen.filter (·.toNat ≤ c.toNat)).length < d.label.length + 1 := by
    rw [label, List.length_append]
    omega
  have quotient : (d.place + e.delta) / (d.label.length + 1) = c.toNat - d.letter := by
    rw [behind, Nat.mul_comm, Nat.mul_add_div (Nat.succ_pos _), Nat.div_eq_of_lt front, Nat.add_zero]
  have remainder : (d.place + e.delta) % (d.label.length + 1) = (seen.filter (·.toNat ≤ c.toNat)).length := by
    rw [behind, Nat.mul_comm, Nat.mul_add_mod, Nat.mod_eq_of_lt front]
  have reached : d.letter + (c.toNat - d.letter) = c.toNat := by omega
  have fresh : (d.place == 0) = (d.label.length == basic) := by
    rw [Bool.eq_iff_iff, beq_iff_eq, beq_iff_eq, first, handled]
  have scalar : (c.toNat < 0x110000 && !(0xD800 ≤ c.toNat && c.toNat < 0xE000)) = true := by
    have valid : c.toNat < 0xD800 ∨ 0xDFFF < c.toNat ∧ c.toNat < 0x110000 := c.valid
    simp only [Bool.and_eq_true, Bool.not_eq_true', Bool.and_eq_false_iff, decide_eq_true_eq, decide_eq_false_iff_not]
    omega
  unfold Decoder.insert?
  simp only [quotient, remainder, reached, fresh, handled]
  rw [if_pos scalar, Char.ofNat_toNat, label, List.take_left, List.drop_left]

/-- The encoder visits a letter. -/
private theorem visit (trails : Trails basic m seen (c :: rest) e d) : ∃ d', Sends e (e.visit basic m c) d d' ∧
    Trails basic m (seen ++ [c]) rest (e.visit basic m c) d' := by
  have whole := trails
  obtain ⟨label, handled, bias, letter, behind, first, started⟩ := trails
  unfold Encoder.visit
  split
  next less =>
    -- A lesser letter is passed by.
    have low : c.toNat ≤ m := Nat.le_of_lt less
    refine ⟨d, .nothing rfl d, ?_, handled, bias, letter, ?_, first, started⟩
    · simp [label, less, low]
    · have here : [c].filter (·.toNat ≤ m) = [c] := by simp [low]
      rw [List.filter_append, List.length_append, here, List.length_singleton]
      dsimp only
      omega
  next notLess =>
    split
    next same =>
      have same : c.toNat = m := eq_of_beq same
      subst same
      refine ⟨_, .number bias rfl whole.insert, ?_, ?_, rfl, Nat.le_refl _, ?_, ?_, Nat.le_succ_of_le started⟩
      · simp
      · rw [handled, label]
        simp [Nat.add_assoc]
      · simp
      · simp only [Nat.add_eq_zero_iff, Nat.one_ne_zero, and_false, false_iff]
        omega
    next other =>
      -- A greater letter is left for later.
      have greater : ¬ c.toNat ≤ m := fun le => other (beq_iff_eq.mpr (by omega))
      refine ⟨d, .nothing rfl d, ?_, handled, bias, letter, ?_, first, started⟩
      · simp [label, notLess, greater]
      · rw [behind]
        simp [greater]

private theorem visitAll (trails : Trails basic m seen rest e d) : ∃ d',
    Sends e (rest.foldl (Encoder.visit basic m) e) d d' ∧
      Trails basic m (seen ++ rest) [] (rest.foldl (Encoder.visit basic m) e) d' := by
  induction rest generalizing seen e d with
  | nil => exact ⟨d, .nothing rfl d, by rwa [List.append_nil]⟩
  | cons c rest ih =>
    obtain ⟨d', sends, trails⟩ := trails.visit
    obtain ⟨d'', sends', trails⟩ := ih trails
    rw [List.append_assoc] at trails
    exact ⟨d'', sends.trans sends', trails⟩

/-- The encoder turns to the least letter that is left. -/
private theorem turn (trails : Trails basic n [] label e d) (le : n ≤ m)
    (least : ∀ c ∈ label, n ≤ c.toNat → m ≤ c.toNat) :
    Trails basic m [] label { e with delta := e.delta + (m - n) * (e.handled + 1) } d := by
  obtain ⟨held, handled, bias, letter, behind, first, started⟩ := trails
  refine ⟨held.trans ?_, handled, bias, letter.trans le, ?_, first, started⟩
  · refine congrArg _ (List.filter_congr fun c member => ?_)
    have least := least c member
    rw [decide_eq_decide]
    omega
  · have further : m - d.letter = (n - d.letter) + (m - n) := by omega
    dsimp only at behind ⊢
    rw [further, Nat.add_mul, handled, ← Nat.add_assoc, behind]
    simp only [List.filter_nil, List.length_nil, Nat.add_zero]

/-- When all is visited, the next letter up is next. -/
private theorem next (trails : Trails basic m label [] e d) :
    Trails basic (m + 1) [] label { e with delta := e.delta + 1 } d := by
  obtain ⟨held, handled, bias, letter, behind, first, started⟩ := trails
  rw [List.filter_nil, List.append_nil] at held
  refine ⟨?_, handled, bias, Nat.le_succ_of_le letter, ?_, first, started⟩
  · rw [held]
    simp [Nat.lt_succ_iff]
  · rw [← held] at behind
    have further : m + 1 - d.letter = (m - d.letter) + 1 := by omega
    dsimp only
    rw [further, Nat.add_mul, ← Nat.add_assoc, behind]
    simp [Nat.add_assoc]

/-- When no letter is left, the decoder holds the label. -/
private theorem finished (trails : Trails basic n [] label e d) (none : ∀ c ∈ label, ¬ n ≤ c.toNat) (fuel : Nat) :
    decodeFrom d fuel [] = some label := by
  have whole : d.label = label := by
    rw [trails.label, List.filter_nil, List.nil_append, List.filter_eq_self]
    exact fun c member => decide_eq_true (Nat.lt_of_not_le (none c member))
  rw [decodeFrom, whole]

/-- From any letter on, what the encoder still writes takes the decoder to the label. -/
private theorem encodeFrom_sent (trails : Trails basic n [] label e d) {fuel : Nat}
    (enough : (label.filter (n ≤ ·.toNat)).length ≤ fuel) : ∃ sent,
      encodeFrom label basic n e fuel = e.written.reverse ++ sent ∧ (∀ c ∈ sent, IsDigit c) ∧
      ∀ fuel, sent.length ≤ fuel → decodeFrom d fuel sent = some label := by
  induction fuel generalizing n e d with
  | zero =>
    have none := List.length_eq_zero_iff.mp (Nat.le_zero.mp enough)
    refine ⟨[], (List.append_nil _).symm, fun _ => nofun, fun fuel _ => trails.finished (fun c member le => ?_) fuel⟩
    exact List.filter_eq_nil_iff.mp none c member (decide_eq_true le)
  | succ fuel ih =>
    rw [encodeFrom]
    cases min : ((label.map Char.toNat).filter (n ≤ ·)).min? with
    | none =>
      have none := List.min?_eq_none_iff.mp min
      refine ⟨[], (List.append_nil _).symm, fun _ => nofun, fun fuel _ => trails.finished (fun c member le => ?_) fuel⟩
      exact List.filter_eq_nil_iff.mp none c.toNat (List.mem_map_of_mem member) (decide_eq_true le)
    | some m =>
      obtain ⟨member, least⟩ := List.min?_eq_some_iff.mp min
      obtain ⟨member, le⟩ := List.mem_filter.mp member
      obtain ⟨c, inside, rfl⟩ := List.mem_map.mp member
      have le := of_decide_eq_true le
      have trails := trails.turn le fun c inside le =>
        least c.toNat (List.mem_filter.mpr ⟨List.mem_map_of_mem inside, decide_eq_true le⟩)
      obtain ⟨d', ⟨sent, written, digits, reads⟩, trails⟩ := trails.visitAll
      rw [List.nil_append] at trails
      have fewer : (label.filter (c.toNat + 1 ≤ ·.toNat)).length < (label.filter (n ≤ ·.toNat)).length := by
        have within : label.filter (c.toNat + 1 ≤ ·.toNat) =
            (label.filter (n ≤ ·.toNat)).filter (c.toNat + 1 ≤ ·.toNat) := by
          rw [List.filter_filter]
          refine List.filter_congr fun other _ => ?_
          rw [← Bool.decide_and, decide_eq_decide]
          omega
        rw [within, List.length_filter_lt_length_iff_exists]
        exact ⟨c, List.mem_filter.mpr ⟨inside, decide_eq_true le⟩, by simp⟩
      obtain ⟨sent', writes, digits', decodes⟩ := ih trails.next (by omega)
      refine ⟨sent ++ sent', ?_, ?_, fun fuel enough => ?_⟩
      · dsimp only at written writes ⊢
        rw [writes, written, List.reverse_append, List.reverse_reverse, List.append_assoc]
      · exact fun c member => (List.mem_append.mp member).elim (digits c) (digits' c)
      · obtain ⟨fuel', enough', same⟩ := reads sent' fuel enough
        exact same.trans (decodes fuel' enough')

end Trails

/-! ### The round trip -/

private theorem isDigit_ne_hyphen {c : Char} (digit : IsDigit c) : c ≠ '-' := by
  have all : ∀ d < 36, digitChar d ≠ '-' := by decide
  obtain ⟨d, small, rfl⟩ := digit
  exact all d small

private theorem splitLastHyphen_append {basic numbers : List Char} (none : '-' ∉ numbers) :
    splitLastHyphen (basic ++ (if basic.isEmpty then [] else ['-']) ++ numbers) = (basic, numbers) := by
  have back : ∀ c ∈ numbers.reverse, (c != '-') = true := fun c member =>
    bne_iff_ne.mpr fun is => none (is ▸ List.mem_reverse.mp member)
  cases basic with
  | nil =>
    have tail : numbers.reverse.takeWhile (· != '-') = numbers.reverse :=
      List.takeWhile_eq_self_iff.mpr back
    simp [splitLastHyphen, tail]
  | cons c rest =>
    have tail : (c :: rest ++ ['-'] ++ numbers).reverse.takeWhile (· != '-') = numbers.reverse := by
      rw [List.reverse_append, List.takeWhile_append_of_pos back]
      simp
    have front : (c :: rest ++ ['-'] ++ numbers).take
        ((c :: rest ++ ['-'] ++ numbers).length - numbers.length - 1) = c :: rest := by
      rw [List.append_assoc]
      refine List.take_left' ?_
      simp only [List.length_append, List.length_singleton]
      omega
    change splitLastHyphen (c :: rest ++ ['-'] ++ numbers) = _
    unfold splitLastHyphen
    rw [tail, List.reverse_reverse]
    dsimp only
    rw [front]
    rfl

/-- What an encoded label consists of. -/
theorem encode_eq (label : List Char) : ∃ sent, (∀ c ∈ sent, IsDigit c) ∧
    let basic := label.filter (·.toNat < 128)
    encode label = basic ++ (if basic.isEmpty then [] else ['-']) ++ sent ∧
    ∀ fuel, sent.length ≤ fuel → decodeFrom ⟨basic, 128, 0, 72⟩ fuel sent = some label := by
  have start : Trails (label.filter (·.toNat < 128)).length 128 [] label
      ⟨[], 0, 72, (label.filter (·.toNat < 128)).length⟩ ⟨label.filter (·.toNat < 128), 128, 0, 72⟩ :=
    ⟨rfl, rfl, rfl, Nat.le_refl _, by simp, by simp, Nat.le_refl _⟩
  obtain ⟨sent, writes, digits, decodes⟩ := start.encodeFrom_sent (List.length_filter_le _ _)
  exact ⟨sent, digits, congrArg _ writes, decodes⟩

/-- The characters of an encoded label: those of the label that are in ASCII, digits, and a hyphen. -/
theorem mem_encode {label : List Char} {c : Char} (member : c ∈ encode label) :
    (c ∈ label ∧ c.toNat < 128) ∨ c = '-' ∨ IsDigit c := by
  obtain ⟨sent, digits, writes, -⟩ := encode_eq label
  rw [writes] at member
  rcases List.mem_append.mp member with front | sent
  · rcases List.mem_append.mp front with basic | mark
    · obtain ⟨inside, ascii⟩ := List.mem_filter.mp basic
      exact Or.inl ⟨inside, of_decide_eq_true ascii⟩
    · split at mark
      · cases mark
      · exact Or.inr (Or.inl (List.mem_singleton.mp mark))
  · exact Or.inr (Or.inr (digits c sent))

/-- Decoding undoes encoding. -/
theorem decode?_encode (label : List Char) : decode? (encode label) = some label := by
  obtain ⟨sent, digits, writes, decodes⟩ := encode_eq label
  have none : '-' ∉ sent := fun member => isDigit_ne_hyphen (digits _ member) rfl
  rw [decode?, writes, splitLastHyphen_append none]
  dsimp only
  rw [if_pos]
  · refine decodes _ ?_
    rw [List.length_append]
    omega
  · exact List.all_eq_true.mpr fun c member => (List.mem_filter.mp member).2

private theorem toNat_ofNat {n : Nat} (valid : n < 0xD800 ∨ 0xDFFF < n ∧ n < 0x110000) :
    (Char.ofNat n).toNat = n := by
  unfold Char.ofNat
  rw [dif_pos valid]
  rfl

/-- The letters of a decoder are those it began with, and others outside ASCII. -/
private theorem mem_decodeFrom {basic label text : List Char} {d : Decoder} {fuel : Nat} (outside : 128 ≤ d.letter)
    (known : ∀ c ∈ d.label, c ∈ basic ∨ 128 ≤ c.toNat) (decoded : decodeFrom d fuel text = some label) :
    ∀ c ∈ label, c ∈ basic ∨ 128 ≤ c.toNat := by
  induction fuel generalizing d text with
  | zero =>
    cases text with
    | nil =>
      cases decoded
      exact known
    | cons => cases decoded
  | succ fuel ih =>
    cases text with
    | nil =>
      cases decoded
      exact known
    | cons c rest =>
      rw [decodeFrom] at decoded
      · obtain ⟨⟨delta, rest⟩, -, decoded⟩ := Option.bind_eq_some_iff.mp decoded
        obtain ⟨d', inserted, decoded⟩ := Option.bind_eq_some_iff.mp decoded
        unfold Decoder.insert? at inserted
        dsimp only at inserted
        split at inserted
        next scalar =>
          cases inserted
          refine ih (Nat.le_add_right_of_le outside) (fun c member => ?_) decoded
          rcases List.mem_append.mp member with front | later
          · exact known c (List.mem_of_mem_take front)
          · rcases List.mem_cons.mp later with rfl | back
            · simp only [Bool.and_eq_true, decide_eq_true_eq, Bool.not_eq_true', Bool.and_eq_false_iff,
                decide_eq_false_iff_not] at scalar
              rw [toNat_ofNat (by omega)]
              exact Or.inr (Nat.le_add_right_of_le outside)
            · exact known c (List.mem_of_mem_drop back)
        · cases inserted
      · exact nofun

theorem mem_decode? {text label : List Char} (decoded : decode? text = some label) {c : Char} (member : c ∈ label) :
    c ∈ text ∨ 128 ≤ c.toNat := by
  unfold decode? at decoded
  dsimp only at decoded
  split at decoded
  · refine (mem_decodeFrom (Nat.le_refl _) (fun _ => Or.inl) decoded c member).imp_left fun basic => ?_
    exact List.mem_of_mem_take basic
  · cases decoded

end Harvest.Url.Punycode
