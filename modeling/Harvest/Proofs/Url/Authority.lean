import Harvest.Proofs.Outcome
import Harvest.Proofs.Url.Host
import Mathlib.Data.List.TakeWhile

/-!
What stands between the double slash and the path: credentials, host and port. Each reads back from its text
beside the others.
-/

namespace Harvest.Url

/-- A character that an authority can hold as it is written. -/
def InAuthority (c : Char) : Prop := Text.IsVisible c ∧ isSlash c = false ∧ endsPath c = false

instance (c : Char) : Decidable (InAuthority c) := inferInstanceAs (Decidable (_ ∧ _))

/-- A character of a host's name as it is written. -/
def InName (c : Char) : Prop := InAuthority c ∧ c ≠ '@' ∧ c ≠ ':' ∧ c ≠ '[' ∧ c ≠ ']' ∧ c ≠ '|'

instance (c : Char) : Decidable (InName c) := inferInstanceAs (Decidable (_ ∧ _))

/-- A character of a user's name or password as it is written. -/
def InUserInfo (c : Char) : Prop := c.toNat < 128 ∧ Percent.inUserInfo c = false

instance (c : Char) : Decidable (InUserInfo c) := inferInstanceAs (Decidable (_ ∧ _))

/-- Credentials as they are read. -/
structure Credentials.Settled (credentials : Credentials) : Prop where
  username : ∀ c ∈ credentials.username.toList, InUserInfo c
  password : ∀ password ∈ credentials.password, password ≠ "" ∧ ∀ c ∈ password.toList, InUserInfo c

/-- A port as it is read. -/
def PortFits (scheme : String) (port : Option Nat) : Prop :=
  ∀ number ∈ port, number ≤ 65535 ∧ defaultPort scheme ≠ some number

/-! ### Characters -/

theorem InAuthority.whole {c : Char} (inside : InAuthority c) (kind : SchemeKind) :
    (isDivider kind c || endsPath c) = false := by
  obtain ⟨-, slash, ends⟩ := inside
  simp only [isSlash, Bool.or_eq_false_iff] at slash
  simp [isDivider, slash.1, slash.2, ends]

private theorem inUserInfo_of_inEscape {c : Char} (escape : Percent.InEscape c) : InUserInfo c := by
  have digit : ∀ d < 16, InUserInfo (Percent.hexDigit d) := by decide
  rcases escape with rfl | ⟨d, small, rfl⟩
  · decide
  · exact digit d small

theorem InUserInfo.spec {c : Char} (inside : InUserInfo c) : InAuthority c ∧ c ≠ ':' ∧ c ≠ '@' :=
  Text.forall_ascii (P := fun c => InUserInfo c → InAuthority c ∧ c ≠ ':' ∧ c ≠ '@') (by decide) inside.1 inside

private theorem inName_of_fits {c : Char} (ascii : c.toNat < 128) (fits : Idna.isForbidden c = false) : InName c :=
  Text.forall_ascii (P := fun c => Idna.isForbidden c = false → InName c) (by decide) ascii fits

private theorem inName_of_isOpaque {c : Char} (inside : Host.IsOpaque c) : InName c :=
  Text.forall_ascii (P := fun c => Host.IsOpaque c → InName c) (by decide) inside.1 inside

variable {kind : SchemeKind}

/-- A host's text is one in brackets or holds neither brackets nor colons. -/
private theorem host_spec {host : Host} (settled : host.Settled kind) :
    (∀ c ∈ host.text.toList, InName c) ∨
      ∃ inner, host.text.toList = '[' :: (inner ++ [']']) ∧
        ∀ c ∈ inner, InAuthority c ∧ c ≠ '@' ∧ c ≠ '[' ∧ c ≠ ']' := by
  cases host with
  | name text =>
    left
    by_cases general : kind = .general
    · subst general
      exact fun c member => inName_of_isOpaque (Host.settled_general.mp settled c member)
    · obtain ⟨written, -⟩ := (Host.settled_name general).mp settled
      exact fun c member => inName_of_fits (written.ascii c member) (written.fit c member)
  | v4 n =>
    obtain ⟨written, -⟩ := Host.written_v4 settled.2
    exact Or.inl fun c member => inName_of_fits (written.ascii c member) (written.fit c member)
  | v6 pieces =>
    have digit : ∀ d < 16, InAuthority (Nat.digitChar d) ∧ Nat.digitChar d ≠ '@' ∧ Nat.digitChar d ≠ '[' ∧
        Nat.digitChar d ≠ ']' := by decide
    refine Or.inr ⟨_, Host.v6_toList pieces, fun c member => ?_⟩
    rcases Host.mem_v6Text member with rfl | ⟨d, small, rfl⟩
    · decide
    · exact digit d small

theorem Host.Settled.inside {host : Host} (settled : host.Settled kind) {c : Char} (member : c ∈ host.text.toList) :
    InAuthority c ∧ c ≠ '@' := by
  rcases host_spec settled with plain | ⟨inner, is, spec⟩
  · exact ⟨(plain c member).1, (plain c member).2.1⟩
  · rw [is] at member
    simp only [List.mem_cons, List.mem_append, List.not_mem_nil, or_false] at member
    rcases member with rfl | here | rfl
    · decide
    · exact ⟨(spec c here).1, (spec c here).2.1⟩
    · decide

/-- No host is written as a drive letter. -/
theorem Host.Settled.noDrive {host : Host} (settled : host.Settled kind) : isDriveLetter host.text.toList = false := by
  unfold isDriveLetter
  split
  next c d is =>
    rcases host_spec settled with plain | ⟨inner, bracketed, -⟩
    · obtain ⟨-, -, colon, -, -, bar⟩ := plain d (by simp [is])
      simp [colon, bar]
    · rw [bracketed] at is
      cases (List.cons_eq_cons.mp is).1
      rfl
  · rfl

/-! ### The length of a host -/

private theorem hostLength_plain {text : List Char} (plain : ∀ c ∈ text, c ≠ ':' ∧ c ≠ '[' ∧ c ≠ ']')
    (more : List Char) : hostLength false (text ++ more) = text.length + hostLength false more := by
  induction text with
  | nil => simp
  | cons c rest ih =>
    have ⟨⟨colon, open_, close⟩, later⟩ := List.forall_mem_cons.mp plain
    simp only [List.cons_append, hostLength, beq_false_of_ne colon, beq_false_of_ne open_, beq_false_of_ne close,
      Bool.false_and, Bool.false_eq_true, if_false, ih later, List.length_cons]
    omega

private theorem hostLength_inner {text : List Char} (plain : ∀ c ∈ text, c ≠ '[' ∧ c ≠ ']') (more : List Char) :
    hostLength true (text ++ ']' :: more) = text.length + 1 + hostLength false more := by
  induction text with
  | nil =>
    simp [hostLength]
    omega
  | cons c rest ih =>
    have ⟨⟨open_, close⟩, later⟩ := List.forall_mem_cons.mp plain
    simp only [List.cons_append, hostLength, beq_false_of_ne open_, beq_false_of_ne close,
      Bool.not_true, Bool.and_false, Bool.false_eq_true, if_false, ih later, List.length_cons]
    omega

/-- A host is read to its end. -/
theorem hostLength_text {host : Host} (settled : host.Settled kind) (more : List Char) :
    hostLength false (host.text.toList ++ more) = host.text.toList.length + hostLength false more := by
  rcases host_spec settled with plain | ⟨inner, is, spec⟩
  · refine hostLength_plain (fun c member => ?_) more
    obtain ⟨-, -, colon, open_, close, -⟩ := plain c member
    exact ⟨colon, open_, close⟩
  · have bracket : hostLength false ('[' :: (inner ++ ']' :: more)) = hostLength true (inner ++ ']' :: more) + 1 := rfl
    rw [is, List.cons_append, List.append_assoc, List.singleton_append, bracket,
      hostLength_inner fun c member => (spec c member).2.2]
    simp only [List.length_cons, List.length_append, List.length_nil]
    omega

theorem readHost_text {host : Host} (settled : host.Settled kind) (some : host.text.toList ≠ [])
    (credentials : Credentials) {port : List Char} (ends : hostLength false port = 0) :
    readHost kind credentials (host.text.toList ++ port) = .ok host := by
  have full : host.text.toList.isEmpty = false := by simpa using some
  unfold readHost
  dsimp only
  rw [hostLength_text settled, ends, Nat.add_zero, List.take_left, full, settled.parse]
  simp

theorem readHost_empty {credentials : Credentials} {port : List Char} (ends : hostLength false port = 0) {host : Host}
    (read : readHost .general credentials port = .ok host) : host = .name "" := by
  unfold readHost at read
  dsimp only at read
  rw [ends, List.take_zero] at read
  split at read
  · cases read
  · obtain ⟨known, parsed, read⟩ := except_bind_ok read
    cases parsed
    split at read
    · cases read
    · cases read
      rfl

/-! ### Credentials -/

theorem settled_readCredentials (text : List Char) : (readCredentials text).Settled := by
  have encoded {part : List Char} {c : Char}
      (member : c ∈ (String.ofList (Percent.encode Percent.inUserInfo part)).toList) : InUserInfo c := by
    rw [String.toList_ofList] at member
    rcases Percent.mem_encode member with ⟨-, ascii, plain⟩ | escape
    · exact ⟨ascii, plain⟩
    · exact inUserInfo_of_inEscape escape
  refine ⟨fun c => encoded, fun password known => ?_⟩
  unfold readCredentials at known
  dsimp only at known
  split at known
  · cases known
  next some =>
    cases known
    refine ⟨fun empty => some (List.isEmpty_iff.mpr ?_), fun c => encoded⟩
    exact Percent.encode_eq_nil (String.ofList_eq_empty_iff.mp empty)

theorem settled_splitCredentials {area rest : List Char} {atEnd : Bool} {credentials : Credentials}
    (read : splitCredentials area atEnd = .ok (credentials, rest)) : credentials.Settled := by
  have none : Credentials.Settled ⟨"", none⟩ := ⟨nofun, nofun⟩
  unfold splitCredentials at read
  split at read
  · cases read
    exact none
  · split at read
    · cases read
      exact none
    · cases read
  · cases read
    exact settled_readCredentials _

theorem splitLast_append {mark : Char} {back : List Char} (none : mark ∉ back) (front : List Char) :
    splitLast mark (front ++ mark :: back) = some (front, back) := by
  have whole : (front ++ mark :: back).contains mark = true := by simp
  have tail : (front ++ mark :: back).reverse.takeWhile (· != mark) = back.reverse := by
    have letters : ∀ c ∈ back.reverse, (c != mark) = true := fun c member =>
      bne_iff_ne.mpr fun is => none (is ▸ List.mem_reverse.mp member)
    rw [List.reverse_append, List.reverse_cons, List.append_assoc, List.takeWhile_append_of_pos letters]
    simp
  have short : (front ++ mark :: back).length - back.length - 1 = front.length := by
    simp only [List.length_append, List.length_cons]
    omega
  unfold splitLast
  rw [whole, if_pos rfl, tail, List.reverse_reverse]
  dsimp only
  rw [short, List.take_left]

theorem splitLast_none {mark : Char} {text : List Char} (none : mark ∉ text) :
    splitLast mark text = .none := by
  have plain : text.contains mark = false := by simpa using none
  rw [splitLast, plain]
  rfl

private theorem readCredentials_text {credentials : Credentials} (settled : credentials.Settled) :
    readCredentials (credentials.username.toList ++ credentials.password.elim [] (':' :: ·.toList)) = credentials := by
  obtain ⟨username, password⟩ := credentials
  obtain ⟨user, pass⟩ := settled
  have plain {part : String} (fits : ∀ c ∈ part.toList, InUserInfo c) :
      String.ofList (Percent.encode Percent.inUserInfo part.toList) = part := by
    rw [Percent.encode_of_plain fits, String.ofList_toList]
  have letters : ∀ c ∈ username.toList, (c != ':') = true := fun c member =>
    bne_iff_ne.mpr (user c member).spec.2.1
  unfold readCredentials
  dsimp only at user pass ⊢
  rw [List.takeWhile_append_of_pos letters, List.dropWhile_append_of_pos letters]
  cases password with
  | none => simp [plain user]
  | some password =>
    obtain ⟨full, fits⟩ := pass password rfl
    simp [plain user, plain fits, full]

/-- Credentials are read off their text in front of a host. -/
theorem splitCredentials_text {url : Url} (settled : Credentials.Settled ⟨url.username, url.password⟩)
    {rest : List Char} (free : '@' ∉ rest) (atEnd : Bool) :
    splitCredentials (url.credentials.toList ++ rest) atEnd = .ok (⟨url.username, url.password⟩, rest) := by
  have same := readCredentials_text settled
  unfold credentials
  generalize url.username = username, url.password = password at *
  cases absent : username.isEmpty && password.isNone with
  | true =>
    obtain ⟨user, pass⟩ := Bool.and_eq_true_iff.mp absent
    cases String.isEmpty_iff.mp user
    cases Option.isNone_iff_eq_none.mp pass
    simp [splitCredentials, splitLast_none free]
  | false =>
    dsimp only at same
    generalize is : username.toList ++ password.elim [] (':' :: ·.toList) = front at same
    have text : (username ++ password.elim "" (":" ++ ·) ++ "@").toList ++ rest = front ++ '@' :: rest := by
      rw [← is]
      cases password <;> simp
    have some : front ≠ [] := by
      rintro rfl
      cases password <;> simp_all
    rw [if_neg Bool.false_ne_true, text, splitCredentials, splitLast_append free]
    cases front with
    | nil => exact absurd rfl some
    | cons c more => exact congrArg (fun credentials => Except.ok (credentials, rest)) same

theorem mem_credentials {url : Url} (settled : Credentials.Settled ⟨url.username, url.password⟩) {c : Char}
    (member : c ∈ url.credentials.toList) : InAuthority c := by
  unfold credentials at member
  split at member
  · cases member
  · simp only [String.toList_append, List.mem_append] at member
    rcases member with (user | pass) | mark
    · exact (settled.username c user).spec.1
    · cases is : url.password with
      | none =>
        rw [is] at pass
        cases pass
      | some password =>
        rw [is] at pass
        simp only [Option.elim, String.toList_append, List.mem_append] at pass
        rcases pass with colon | pass
        · cases List.mem_singleton.mp colon
          decide
        · exact ((settled.password password is).2 c pass).spec.1
    · cases List.mem_singleton.mp mark
      decide

/-! ### The port -/

theorem portFits_readPort? {scheme : String} {text rest : List Char} {port : Option Nat}
    (read : readPort? scheme text = .ok (port, rest)) : PortFits scheme port := by
  unfold readPort? at read
  split at read
  · unfold readPort at read
    dsimp only at read
    split at read
    · cases read
    next within =>
      cases read
      simp only [Bool.or_eq_true, decide_eq_true_eq, not_or] at within
      intro number known
      split at known
      · cases known
      next other =>
        cases known
        simp only [Bool.or_eq_true, beq_iff_eq, not_or] at other
        exact ⟨Nat.le_of_not_lt within.1, other.2⟩
  · cases read
    rintro number ⟨⟩

private theorem ofDigits_toDigits (n : Nat) : Decimal.ofDigits (Nat.toDigits 10 n) = n := by
  have same := Nat.ofDigitChars_toDigits (b := 10) (n := n) (by decide) (by decide)
  unfold Nat.ofDigitChars at same
  simpa only [Decimal.ofDigits, Decimal.digitValue, Nat.mul_comm 10] using same

private theorem isDigit_of_mem {n : Nat} {c : Char} (member : c ∈ Nat.toDigits 10 n) : Decimal.isDigit c = true := by
  have ⟨above, below⟩ := Bool.and_eq_true_iff.mp (Nat.isDigit_of_mem_toDigits (by decide) (by decide) member)
  exact Bool.and_eq_true_iff.mpr ⟨decide_eq_true (of_decide_eq_true above), decide_eq_true (of_decide_eq_true below)⟩

theorem portText_toList (url : Url) :
    url.portText.toList = url.port.elim [] (':' :: Nat.toDigits 10 ·) := by
  unfold portText
  cases url.port <;> simp

theorem hostLength_portText (url : Url) : hostLength false url.portText.toList = 0 := by
  rw [portText_toList]
  cases url.port <;> rfl

theorem mem_portText {url : Url} {c : Char} (member : c ∈ url.portText.toList) : InAuthority c ∧ c ≠ '@' := by
  rw [portText_toList] at member
  cases is : url.port with
  | none =>
    rw [is] at member
    cases member
  | some number =>
    rw [is] at member
    rcases List.mem_cons.mp (show c ∈ ':' :: Nat.toDigits 10 number from member) with rfl | digit
    · decide
    · have digit := isDigit_of_mem digit
      exact Text.forall_ascii (P := fun c => Decimal.isDigit c = true → InAuthority c ∧ c ≠ '@') (by decide)
        (Host.ascii_of_isDigit digit) digit

/-- The port is read off its text in front of a path. -/
theorem readPort?_text {url : Url} (fits : PortFits url.scheme url.port) (path : List Char) :
    readPort? url.scheme (url.portText.toList ++ '/' :: path) = .ok (url.port, '/' :: path) := by
  rw [portText_toList]
  generalize url.port = port at fits ⊢
  cases port with
  | none => rfl
  | some number =>
    obtain ⟨small, other⟩ := fits number rfl
    have digits : ∀ c ∈ Nat.toDigits 10 number, Decimal.isDigit c = true := fun c => isDigit_of_mem
    change readPort url.scheme (Nat.toDigits 10 number ++ '/' :: path) = _
    obtain ⟨front, back⟩ := Text.span_append digits ('/' :: path) rfl
    unfold readPort
    dsimp only
    rw [front, back, ofDigits_toDigits]
    simp [Nat.not_lt.mpr small, endsArea, isSlash, other, Nat.toDigits_ne_nil]

end Harvest.Url
