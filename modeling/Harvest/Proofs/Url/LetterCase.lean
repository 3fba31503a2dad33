import Harvest.Proofs.Url.Host

/-!
The case of letters in a host. Texts that differ in nothing else are read alike, in names, in escapes and in
addresses.
-/

namespace Harvest.Url

open Text (lowerAscii)

/-! ### Names -/

theorem Percent.decode_lower (text : List Char) :
    (decode (text.map lowerAscii)).map Text.Utf8.lowerByte = (decode text).map Text.Utf8.lowerByte := by
  have percent : lowerAscii '%' = '%' := by decide
  have value (c : Char) : hexValue? (lowerAscii c) = hexValue? c :=
    Text.lowerAscii_invariant (by decide) c
  fun_induction decode text with
  | case1 a b rest x y first second ih =>
    simp only [List.map_cons, percent, decode, value, first, second, ih]
  | case2 a b rest none ih =>
    have kept : decode ('%' :: lowerAscii a :: lowerAscii b :: rest.map lowerAscii) =
        37 :: decode (lowerAscii a :: lowerAscii b :: rest.map lowerAscii) := by
      rw [decode, value, value]
      split
      next x y first second => exact (none x y first second).elim
      · rfl
    rw [List.map_cons, List.map_cons, List.map_cons, percent, kept, List.map_cons, List.map_cons]
    exact congrArg (Text.Utf8.lowerByte 37 :: ·) ih
  | case3 c rest other ih =>
    have mark : ∀ c, lowerAscii c = '%' ↔ c = '%' := Text.lowerAscii_eq_iff (by decide)
    have kept : decode (lowerAscii c :: rest.map lowerAscii) =
        Text.Utf8.encodeChar (lowerAscii c) ++ decode (rest.map lowerAscii) := by
      rw [decode]
      intro a b more is shape
      obtain ⟨x, after, rfl, -, shape⟩ := List.map_eq_cons_iff.mp shape
      obtain ⟨y, after, rfl, -, -⟩ := List.map_eq_cons_iff.mp shape
      exact other x y after ((mark c).mp is) rfl
    rw [List.map_cons, kept, List.map_append, List.map_append, ih, Text.Utf8.encodeChar_lower]
  | case4 => rfl

private theorem Idna.mapChars_lower (text : List Char) : mapChars (text.map lowerAscii) = mapChars text := by
  induction text with
  | nil => rfl
  | cons c rest ih =>
    rw [List.map_cons, mapChars, mapChars, ih]
    by_cases small : lowerAscii c = c
    · rw [small]
    · have kept : Mapping.of (lowerAscii c) = .keep :=
        Mapping.of_eq_keep (Text.lowerAscii_lt small) (Text.lowerAscii_idem c)
      have replaced : Mapping.of c = .replace [lowerAscii c] := if_pos small
      rw [kept, replaced]
      rfl

theorem Idna.toAscii_lower (text : List Char) : toAscii (text.map lowerAscii) = toAscii text := by
  unfold toAscii
  rw [Text.map_lowerAscii_idem, mapChars_lower]

private theorem Idna.ofBytes_lower (bytes : List UInt8) : ofBytes (bytes.map Text.Utf8.lowerByte) = ofBytes bytes := by
  have alike : toAscii ∘ List.map lowerAscii = toAscii := funext toAscii_lower
  unfold ofBytes
  rw [Text.Utf8.decode?_lower]
  exact (Option.bind_map ..).trans (congrArg _ alike)

theorem Idna.ofBytes_decode_lower (text : List Char) :
    ofBytes (Percent.decode (text.map lowerAscii)) = ofBytes (Percent.decode text) := by
  rw [← ofBytes_lower, Percent.decode_lower, ofBytes_lower]

/-! ### Addresses -/

namespace Host

/-- What was read, with the letters behind it in their small form. -/
private def lowerRest {α : Type} (read : α × List Char) : α × List Char := (read.1, read.2.map lowerAscii)

private theorem readPiece_lower (text : List Char) :
    readPiece (text.map lowerAscii) = (readPiece text).map lowerRest := by
  have value (c : Char) : hexDigit? (lowerAscii c) = hexDigit? c := Text.lowerAscii_invariant (by decide) c
  have alike (c : Char) : (hexDigit? (lowerAscii c)).isSome = (hexDigit? c).isSome := congrArg _ (value c)
  unfold readPiece
  dsimp only
  rw [← List.map_take, Text.takeWhile_lower alike]
  generalize (text.take 4).takeWhile _ = digits
  rw [List.isEmpty_map, List.foldl_map, List.length_map, ← List.map_drop]
  simp only [value]
  split
  · rfl
  · rfl

private theorem readByte_lower (text : List Char) : readByte (text.map lowerAscii) = (readByte text).map lowerRest := by
  have alike (c : Char) : Decimal.isDigit (lowerAscii c) = Decimal.isDigit c := Text.lowerAscii_invariant (by decide) c
  have same : (text.takeWhile Decimal.isDigit).map lowerAscii = text.takeWhile Decimal.isDigit :=
    Text.map_lowerAscii_of fun c member => (Host.digit_spec (Or.inr (List.mem_takeWhile_imp member))).2.1
  unfold readByte
  dsimp only
  rw [Text.takeWhile_lower alike, same, ← List.map_drop]
  split
  · rfl
  · rfl

private theorem dot_lower (text : List Char) :
    readEmbedded.dot (text.map lowerAscii) = (readEmbedded.dot text).map (List.map lowerAscii) := by
  have mark : ∀ c, lowerAscii c = '.' ↔ c = '.' := Text.lowerAscii_eq_iff (by decide)
  cases text with
  | nil => rfl
  | cons c rest =>
    by_cases is : c = '.'
    · subst is
      rfl
    · simp [readEmbedded.dot, is, mark]

private theorem bind_alike {α β γ : Type} {read : Option α} {change : α → β} {next : β → Option γ}
    {next' : α → Option γ} (alike : ∀ a, next (change a) = next' a) : (read.map change).bind next = read.bind next' := by
  cases read with
  | none => rfl
  | some a => exact alike a

private theorem readEmbedded_lower (text : List Char) : readEmbedded (text.map lowerAscii) = readEmbedded text := by
  unfold readEmbedded
  rw [readByte_lower]
  refine bind_alike fun ⟨a, rest⟩ => ?_
  dsimp only [lowerRest]
  rw [dot_lower]
  refine bind_alike fun rest => ?_
  rw [readByte_lower]
  refine bind_alike fun ⟨b, rest⟩ => ?_
  dsimp only [lowerRest]
  rw [dot_lower]
  refine bind_alike fun rest => ?_
  rw [readByte_lower]
  refine bind_alike fun ⟨c, rest⟩ => ?_
  dsimp only [lowerRest]
  rw [dot_lower]
  refine bind_alike fun rest => ?_
  rw [readByte_lower]
  refine bind_alike fun ⟨d, rest⟩ => ?_
  cases rest with
  | nil => rfl
  | cons => rfl

private theorem readPieces_lower (pieces : List Nat) (gap : Option Nat) (fuel : Nat) (text : List Char) :
    readPieces pieces gap fuel (text.map lowerAscii) = readPieces pieces gap fuel text := by
  have colon : ∀ c, lowerAscii c = ':' ↔ c = ':' := Text.lowerAscii_eq_iff (by decide)
  have dot : ∀ c, lowerAscii c = '.' ↔ c = '.' := Text.lowerAscii_eq_iff (by decide)
  induction fuel generalizing pieces gap text with
  | zero => rfl
  | succ fuel ih =>
    cases text with
    | nil => rfl
    | cons c rest =>
      have piece : readPiece (lowerAscii c :: rest.map lowerAscii) = (readPiece (c :: rest)).map lowerRest :=
        readPiece_lower (c :: rest)
      have embedded : readEmbedded (lowerAscii c :: rest.map lowerAscii) = readEmbedded (c :: rest) :=
        readEmbedded_lower (c :: rest)
      have same : (lowerAscii c == ':') = (c == ':') := by rw [Bool.eq_iff_iff, beq_iff_eq, beq_iff_eq, colon]
      rw [List.map_cons, readPieces, readPieces, same, piece, embedded, ih]
      cases readPiece (c :: rest) with
      | none => rfl
      | some read =>
        obtain ⟨number, after⟩ := read
        cases after with
        | nil => rfl
        | cons d more =>
          refine ite_congr rfl (fun _ => rfl) fun _ => ite_congr rfl (fun _ => rfl) fun _ => ?_
          by_cases point : d = '.'
          · subst point
            rfl
          by_cases pair : d = ':'
          · subst pair
            cases more with
            | nil => rfl
            | cons e more => exact ih (pieces ++ [number]) gap (e :: more)
          · simp [lowerRest, point, pair, dot, colon]

private theorem openGap?_lower (text : List Char) :
    openGap? (text.map lowerAscii) = (openGap? text).map lowerRest := by
  have colon : ∀ c, lowerAscii c = ':' ↔ c = ':' := Text.lowerAscii_eq_iff (by decide)
  cases text with
  | nil => rfl
  | cons c rest =>
    by_cases first : c = ':'
    · subst first
      cases rest with
      | nil => rfl
      | cons d more =>
        by_cases second : d = ':'
        · subst second
          rfl
        · have same : lowerAscii ':' = ':' := by decide
          simp [openGap?, second, colon, same]
    · simp [openGap?, first, colon, lowerRest]

theorem v6?_lower (text : List Char) : v6? (text.map lowerAscii) = v6? text := by
  simp only [v6?, openGap?_lower, Option.bind_eq_bind, Option.bind_map, Function.comp_def, lowerRest,
    List.length_map, readPieces_lower]

private theorem bracketed?_lower (text : List Char) : bracketed? (text.map lowerAscii) = bracketed? text := by
  have open_ : ∀ c, lowerAscii c = '[' ↔ c = '[' := Text.lowerAscii_eq_iff (by decide)
  have close : ∀ c, lowerAscii c = ']' ↔ c = ']' := Text.lowerAscii_eq_iff (by decide)
  cases text with
  | nil => rfl
  | cons c rest =>
    by_cases is : c = '['
    · subst is
      have ends : ((rest.map lowerAscii).getLast? == some ']') = (rest.getLast? == some ']') := by
        rw [List.getLast?_map]
        cases rest.getLast? with
        | none => rfl
        | some d => simp [close]
      change bracketed? ('[' :: rest.map lowerAscii) = bracketed? ('[' :: rest)
      rw [bracketed?, bracketed?, ends, ← List.map_dropLast, v6?_lower]
    · simp [bracketed?, is, open_]

theorem parseWeb_lower (text : List Char) : parseWeb (text.map lowerAscii) = parseWeb text := by
  unfold parseWeb
  rw [bracketed?_lower, Idna.ofBytes_decode_lower]

end Host

end Harvest.Url
