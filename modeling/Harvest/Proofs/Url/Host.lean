import Harvest.Proofs.Text.Utf8
import Harvest.Proofs.Url.Address
import Harvest.Proofs.Url.Percent
import Harvest.Url.Normalize

/-!
Hosts as they are read. The text of such a host reads back as the host, also in small letters and without its
`www` labels, as far as anything is left of it.
-/

namespace Harvest.Url

theorem Idna.ofBytes_decode {text : List Char} (plain : '%' ∉ text) :
    ofBytes (Percent.decode text) = toAscii text := by
  rw [ofBytes, Percent.decode_of_plain plain, Text.Utf8.decode?_encode]
  rfl

namespace Host

/-- A character of a name that is kept as it is. -/
def IsOpaque (c : Char) : Prop := c.toNat < 128 ∧ Percent.isControl c = false ∧ isForbidden c = false

instance (c : Char) : Decidable (IsOpaque c) := inferInstanceAs (Decidable (_ ∧ _))

/-- A host as it is read in the URLs of a kind. -/
def Settled (kind : SchemeKind) : Host → Prop
  | name text =>
    if kind = .general then ∀ c ∈ text.toList, IsOpaque c
    else Idna.Written text.toList ∧ text.toList ≠ [] ∧ endsInNumber text.toList = false
  | v4 n => kind ≠ .general ∧ n < 2 ^ 32
  | v6 pieces => ArePieces pieces ∧ pieces.length = 8

theorem settled_general {text : String} : Settled .general (name text) ↔ ∀ c ∈ text.toList, IsOpaque c := by
  rw [Settled, if_pos rfl]

theorem settled_name {kind : SchemeKind} (web : kind ≠ .general) {text : String} : Settled kind (name text) ↔
    Idna.Written text.toList ∧ text.toList ≠ [] ∧ endsInNumber text.toList = false := by
  rw [Settled, if_neg web]

private theorem isOpaque_of_inEscape {c : Char} (escape : Percent.InEscape c) : IsOpaque c := by
  have digit : ∀ d < 16, IsOpaque (Percent.hexDigit d) := by decide
  rcases escape with rfl | ⟨d, small, rfl⟩
  · decide
  · exact digit d small

theorem settled_of_parse {kind : SchemeKind} {text : List Char} {host : Host} (read : parse kind text = .ok host) :
    host.Settled kind := by
  have bracketed {result : Except ParseError Host} (brackets : bracketed? text = some result)
      (is : result = .ok host) : host.Settled kind := by
    unfold bracketed? at brackets
    split at brackets
    next rest =>
      cases brackets
      split at is
      · split at is
        next pieces six =>
          cases is
          exact v6?_spec six
        · cases is
      · cases is
    · cases brackets
  unfold parse at read
  split at read
  next general =>
    cases eq_of_beq general
    unfold parseOther at read
    split at read
    next result brackets => exact bracketed brackets read
    · split at read
      · cases read
      next fit =>
        cases read
        refine settled_general.mpr fun c member => ?_
        rw [String.toList_ofList] at member
        rcases Percent.mem_encode member with ⟨inside, ascii, plain⟩ | escape
        · simp only [List.any_eq_true, not_exists, not_and, Bool.not_eq_true] at fit
          exact ⟨ascii, plain, fit c inside⟩
        · exact isOpaque_of_inEscape escape
  next web =>
    have web : kind ≠ .general := by
      rintro rfl
      exact web rfl
    unfold parseWeb at read
    split at read
    next result brackets => exact bracketed brackets read
    · split at read
      · cases read
      · cases read
      next ascii some is =>
        obtain ⟨decoded, -, is⟩ := Option.bind_eq_some_iff.mp is
        split at read
        · split at read
          next address four =>
            cases read
            exact ⟨web, v4?_lt four⟩
          · cases read
        next number =>
          cases read
          rw [settled_name web, String.toList_ofList]
          exact ⟨Idna.written_of_toAscii is, some, Bool.eq_false_iff.mpr number⟩

theorem v6_toList (pieces : List Nat) : (text (.v6 pieces)).toList = '[' :: (v6Text pieces ++ [']']) := by
  simp [text]

private theorem bracketed?_eq_none {text : List Char} (open_ : '[' ∉ text) : bracketed? text = none := by
  cases text with
  | nil => rfl
  | cons c rest =>
    unfold bracketed?
    split
    next is =>
      cases (List.cons_eq_cons.mp is).1
      exact absurd List.mem_cons_self open_
    · rfl

private theorem bracketed?_v6 {pieces : List Nat} (are : ArePieces pieces) (eight : pieces.length = 8) :
    bracketed? (text (.v6 pieces)).toList = some (.ok (.v6 pieces)) := by
  rw [v6_toList]
  simp [bracketed?, v6?_v6Text are eight]

/-- What is read from a name as it is written. -/
theorem parseWeb_written {name : List Char} (written : Idna.Written name) (some : name ≠ []) :
    parseWeb name = if endsInNumber name then
      match v4? name with
      | .some n => .ok (v4 n)
      | none => .error .invalidIpv4
    else .ok (.name (String.ofList name)) := by
  have open_ : '[' ∉ name := fun member => nomatch (written.fit _ member)
  have plain : '%' ∉ name := fun member => nomatch (written.fit _ member)
  unfold parseWeb
  rw [bracketed?_eq_none open_, Idna.ofBytes_decode plain, written.toAscii]
  dsimp only
  split
  next none => cases none
  next empty => exact absurd (Option.some.inj empty) some
  next is =>
    cases is
    rfl

namespace Settled

variable {kind : SchemeKind} {host : Host}

/-- Only the general rules know an empty host. -/
theorem named (settled : host.Settled kind) (strict : kind ≠ .general) : host.text.toList ≠ [] := by
  cases host with
  | name text => exact ((settled_name strict).mp settled).2.1
  | v4 n =>
    intro none
    obtain ⟨-, number⟩ := written_v4 settled.2
    rw [none] at number
    cases number
  | v6 pieces =>
    rw [v6_toList]
    exact List.cons_ne_nil _ _

/-- The text of a host reads back as the host. -/
theorem parse (settled : host.Settled kind) : Host.parse kind host.text.toList = .ok host := by
  cases host with
  | name text =>
    by_cases general : kind = .general
    · subst general
      have spec := settled_general.mp settled
      have open_ : '[' ∉ text.toList := fun member => nomatch (spec _ member).2.2
      have fit : ¬ text.toList.any isForbidden = true := by
        simpa using fun c member => (spec c member).2.2
      change parseOther text.toList = _
      unfold parseOther
      rw [bracketed?_eq_none open_]
      dsimp only
      rw [if_neg fit, Percent.encode_of_plain fun c member => ⟨(spec c member).1, (spec c member).2.1⟩,
        String.ofList_toList]
    · obtain ⟨written, some, number⟩ := (settled_name general).mp settled
      unfold Host.parse
      rw [if_neg (by simpa using general)]
      change parseWeb text.toList = _
      rw [parseWeb_written written some, number, if_neg Bool.false_ne_true, String.ofList_toList]
  | v4 n =>
    obtain ⟨general, small⟩ := settled
    obtain ⟨written, number⟩ := written_v4 small
    unfold Host.parse
    rw [if_neg (by simpa using general), parseWeb_written written (named ⟨general, small⟩ general), number, if_pos rfl,
      v4?_text small]
  | v6 pieces =>
    obtain ⟨are, eight⟩ := settled
    unfold Host.parse parseOther parseWeb
    rw [bracketed?_v6 are eight]
    exact ite_self _

theorem eq_of_text {other : Host} (settled : host.Settled kind) (otherSettled : other.Settled kind)
    (same : host.text.toList = other.text.toList) : host = other := by
  have parsed := settled.parse
  rw [same, otherSettled.parse] at parsed
  cases parsed
  rfl

end Settled

end Host

/-! ### Without `www` labels -/

theorem bareHost_subset {host : List Char} {c : Char} (member : c ∈ bareHost host) : c ∈ host := by
  fun_induction bareHost host with
  | case1 rest ih => simp [ih member]
  | case2 => exact member

theorem bareHost_idem (host : List Char) : bareHost (bareHost host) = bareHost host := by
  fun_induction bareHost host with
  | case1 rest ih => exact ih
  | case2 host other => rw [bareHost]; exact other

private theorem bareHost_of_ne {c : Char} (other : c ≠ 'w') (rest : List Char) :
    bareHost (c :: rest) = c :: rest := by
  rw [bareHost]
  intro rest is
  exact other (List.cons_eq_cons.mp is).1

private theorem www_unbroken : '.' ∉ ['w', 'w', 'w'] := by decide

theorem Idna.Written.bareHost {host : List Char} (written : Idna.Written host) :
    Idna.Written (Url.bareHost host) := by
  fun_induction Url.bareHost host with
  | case1 rest ih => exact ih (Idna.Written.tail www_unbroken written)
  | case2 => exact written

private theorem endsInNumber_www {rest : List Char}
    (name : Host.endsInNumber ('w' :: 'w' :: 'w' :: '.' :: rest) = false) : Host.endsInNumber rest = false := by
  have labels : Idna.splitLabels ('w' :: 'w' :: 'w' :: '.' :: rest) = ['w', 'w', 'w'] :: Idna.splitLabels rest :=
    Idna.splitLabels_append www_unbroken rest
  unfold Host.endsInNumber Host.lastLabel? at name ⊢
  rw [labels, List.reverse_cons] at name
  generalize (Idna.splitLabels rest).reverse = back at name ⊢
  match back with
  | [] => rfl
  | [[]] => rfl
  | [] :: label :: _ => exact name
  | (c :: label) :: _ => exact name

theorem endsInNumber_bareHost {host : List Char} (name : Host.endsInNumber host = false) :
    Host.endsInNumber (bareHost host) = false := by
  fun_induction bareHost host with
  | case1 rest ih => exact ih (endsInNumber_www name)
  | case2 => exact name

private theorem bare_v4 {n : Nat} (small : n < 2 ^ 32) :
    bareHost ((Host.text (.v4 n)).toList.map Text.lowerAscii) = (Host.text (.v4 n)).toList := by
  obtain ⟨written, -⟩ := Host.written_v4 small
  have digits (c : Char) (member : c ∈ (Host.text (.v4 n)).toList) : c = '.' ∨ Decimal.isDigit c = true :=
    Host.mem_v4 small member
  rw [Text.map_lowerAscii_of written.lower]
  generalize (Host.text (.v4 n)).toList = text at digits ⊢
  cases text with
  | nil => rfl
  | cons c rest =>
    refine bareHost_of_ne ?_ rest
    rintro rfl
    exact nomatch digits _ List.mem_cons_self

private theorem bare_v6 (pieces : List Nat) :
    bareHost ((Host.text (.v6 pieces)).toList.map Text.lowerAscii) = (Host.text (.v6 pieces)).toList := by
  have digit : ∀ d < 16, Text.lowerAscii (Nat.digitChar d) = Nat.digitChar d := by decide
  have lower (c : Char) (member : c ∈ (Host.text (.v6 pieces)).toList) : Text.lowerAscii c = c := by
    rw [Host.v6_toList] at member
    simp only [List.mem_cons, List.mem_append, List.not_mem_nil, or_false] at member
    rcases member with rfl | inside | rfl
    · decide
    · rcases Host.mem_v6Text inside with rfl | ⟨d, small, rfl⟩
      · decide
      · exact digit d small
    · decide
  rw [Text.map_lowerAscii_of lower, Host.v6_toList]
  exact bareHost_of_ne (by decide) _

/-- A host in small letters and without its `www` labels is a host as it is read, unless nothing is left of a
name that may not be empty. -/
theorem Host.Settled.bare {kind : SchemeKind} {host : Host} (settled : host.Settled kind)
    (left : kind = .general ∨ bareHost (host.text.toList.map Text.lowerAscii) ≠ []) :
    ∃ bare : Host, bare.Settled kind ∧ bare.text.toList = bareHost (host.text.toList.map Text.lowerAscii) := by
  cases host with
  | name text =>
    refine ⟨.name (String.ofList (bareHost (text.toList.map Text.lowerAscii))), ?_, String.toList_ofList⟩
    by_cases general : kind = .general
    · subst general
      rw [settled_general, String.toList_ofList]
      intro c member
      obtain ⟨c, inside, rfl⟩ := List.mem_map.mp (bareHost_subset member)
      have is := settled_general.mp settled c inside
      exact Text.forall_ascii (P := fun c => IsOpaque c → IsOpaque (Text.lowerAscii c)) (by decide) is.1 is
    · obtain ⟨written, -, number⟩ := (settled_name general).mp settled
      have same : text.toList.map Text.lowerAscii = text.toList := Text.map_lowerAscii_of written.lower
      rw [settled_name general, String.toList_ofList]
      have some := left.resolve_left general
      change bareHost (text.toList.map Text.lowerAscii) ≠ [] at some
      rw [same] at some ⊢
      exact ⟨written.bareHost, some, endsInNumber_bareHost number⟩
  | v4 n => exact ⟨.v4 n, settled, (bare_v4 settled.2).symm⟩
  | v6 pieces => exact ⟨.v6 pieces, settled, (bare_v6 pieces).symm⟩

end Harvest.Url
