import Harvest.Proofs.Url.Identity
import Harvest.Proofs.Url.LetterCase

/-!
Spellings of a URL. Texts that differ only in the letter case of scheme and host, in the query and in the fragment
share a normal form; others share one just if their URLs agree in all else.
-/

namespace Harvest.Url

open Text (lowerAscii)

/-- A text of the web, cut in front of its slashes, its user, its host, its path, and what follows the path. The
port belongs to the host, and the mark behind the user to the user. -/
structure Spelling where
  scheme : List Char
  slashes : List Char
  user : List Char
  host : List Char
  path : List Char
  tail : List Char

namespace Spelling

def text (s : Spelling) : List Char :=
  s.scheme ++ ':' :: (s.slashes ++ (s.user ++ (s.host ++ (s.path ++ s.tail))))

structure Fits (s : Spelling) : Prop where
  scheme : s.scheme.map lowerAscii = "http".toList ∨ s.scheme.map lowerAscii = "https".toList
  slashes : ∀ c ∈ s.slashes, isSlash c = true
  user : s.user = [] ∨ ∃ front, s.user = front ++ ['@']
  area : ∀ c ∈ s.user ++ s.host, endsArea c = false
  named : s.host ≠ []
  host : '@' ∉ s.host
  path : (∀ c ∈ s.path, endsPath c = false) ∧ s.path.head?.all isSlash = true
  tail : s.tail.head?.all endsPath = true

/-- Spellings that differ in letter case where it does not count, and in what follows the path. -/
structure Alike (s t : Spelling) : Prop where
  scheme : s.scheme.map lowerAscii = t.scheme.map lowerAscii
  user : s.user = t.user
  host : s.host.map lowerAscii = t.host.map lowerAscii
  path : s.path = t.path

end Spelling

/-! ### Without query and fragment -/

theorem normal_finish (kind : SchemeKind) (url : Url) (rest : List Char) :
    normal (finish kind url rest) = normal url := by
  have domain : (finish kind url rest).domain? = url.domain? := rfl
  unfold normal withHost
  rw [domain]
  cases url.domain? with
  | none => rfl
  | some host =>
    dsimp only
    rw [finish_eq]
    dsimp only
    cases Host.parse (SchemeKind.of url.scheme) (bareHost host.toList) with
    | error e => rfl
    | ok host => rfl

private theorem readPath_append {path tail : List Char} (inside : ∀ c ∈ path, endsPath c = false)
    (ends : tail.head?.all endsPath = true) :
    readPath .web [] (path ++ tail) = ((readPath .web [] path).1, tail) := by
  have inner : ∀ c ∈ path, (!endsPath c) = true := fun c member => Bool.not_eq_eq_eq_not.mpr (inside c member)
  obtain ⟨front, back⟩ := Text.span_append inner tail (by simpa using ends)
  obtain ⟨whole, -⟩ := Text.span_append inner [] rfl
  rw [List.append_nil] at whole
  unfold readPath
  rw [front, back, whole]

private theorem readTail_append {path tail : List Char} (inside : ∀ c ∈ path, endsPath c = false)
    (starts : path.head?.all isSlash = true) (ends : tail.head?.all endsPath = true) (url : Url) :
    readTail .web url (path ++ tail) = finish .web (readTail .web url path) tail := by
  have drop : dropDivider .web (path ++ tail) = dropDivider .web path ++ tail := by
    have slash (c : Char) : isDivider .web c = isSlash c :=
      congrArg (c == '/' || ·) (Bool.and_true _)
    cases path with
    | nil =>
      cases tail with
      | nil => rfl
      | cons c rest =>
        have mark : c = '?' ∨ c = '#' := by simpa [endsPath] using ends
        rcases mark with rfl | rfl
        · rfl
        · rfl
    | cons c rest =>
      have divides : isDivider .web c = true := (slash c).trans starts
      simp [dropDivider, divides]
  have inside' : ∀ c ∈ dropDivider .web path, endsPath c = false := by
    intro c member
    unfold dropDivider at member
    split at member
    · exact inside c (List.mem_of_mem_drop member)
    · exact inside c member
  have bare := readPath_append inside' (rfl : ([] : List Char).head?.all endsPath = true)
  rw [List.append_nil] at bare
  unfold readTail
  rw [drop, readPath_append inside' ends, bare]
  rfl

/-! ### Area -/

/-- A port is read off what stands behind the host alone. -/
private theorem readPort?_append {scheme : String} {port after : List Char}
    (whole : ∀ c ∈ port, endsArea c = false) (starts : port.head?.all (· == ':') = true)
    (ends : after.head?.all endsArea = true) :
    readPort? scheme (port ++ after) = (readPort? scheme port).map fun read => (read.1, after) := by
  have notDigit {c : Char} (mark : endsArea c = true) : Decimal.isDigit c = false ∧ c ≠ ':' := by
    simp only [endsArea, isSlash, endsPath, Bool.or_eq_true, beq_iff_eq] at mark
    rcases mark with (rfl | rfl) | rfl | rfl
    all_goals decide
  cases port with
  | nil =>
    cases after with
    | nil => rfl
    | cons c rest =>
      have other := (notDigit (show _ = true from ends)).2
      simp [readPort?, other, Except.map]
  | cons c more =>
    cases eq_of_beq (show (c == ':') = true from starts)
    obtain ⟨-, inner⟩ := List.forall_mem_cons.mp whole
    have split : more = more.takeWhile Decimal.isDigit ++ more.dropWhile Decimal.isDigit :=
      List.takeWhile_append_dropWhile.symm
    have digits : ∀ c ∈ more.takeWhile Decimal.isDigit, Decimal.isDigit c = true := fun c => List.mem_takeWhile_imp
    have back := List.head?_dropWhile_not Decimal.isDigit more
    change readPort scheme (more ++ after) = (readPort scheme more).map _
    unfold readPort
    dsimp only
    generalize more.takeWhile Decimal.isDigit = front, more.dropWhile Decimal.isDigit = rest at split digits back ⊢
    subst split
    cases rest with
    | nil =>
      have stops : after.head?.all (!Decimal.isDigit ·) = true := by
        cases after with
        | nil => rfl
        | cons c rest => exact Bool.not_eq_eq_eq_not.mpr (notDigit (show _ = true from ends)).1
      obtain ⟨whole, left⟩ := Text.span_append digits after stops
      have none : ([] : List Char).head?.all endsArea = true := rfl
      rw [List.append_nil, whole, left, ends, none]
      split
      · rfl
      · rfl
    | cons d rest =>
      have stops : (d :: rest ++ after).head?.all (!Decimal.isDigit ·) = true := Bool.not_eq_eq_eq_not.mpr back
      obtain ⟨whole, left⟩ := Text.span_append digits (d :: rest ++ after) stops
      have noMark : endsArea d = false := inner d (by simp)
      rw [List.append_assoc, whole, left]
      simp [noMark, Except.map]

private theorem readPort?_lower (scheme : String) (port : List Char) :
    (readPort? scheme (port.map lowerAscii)).map Prod.fst = (readPort? scheme port).map Prod.fst := by
  have digit (c : Char) : Decimal.isDigit (lowerAscii c) = Decimal.isDigit c :=
    Text.lowerAscii_invariant (by decide) c
  have mark (c : Char) : endsArea (lowerAscii c) = endsArea c :=
    Text.lowerAscii_invariant (f := endsArea) (by decide) c
  have colon : ∀ c, lowerAscii c = ':' ↔ c = ':' := Text.lowerAscii_eq_iff (by decide)
  cases port with
  | nil => rfl
  | cons c more =>
    by_cases starts : c = ':'
    · subst starts
      have same : (more.takeWhile Decimal.isDigit).map lowerAscii = more.takeWhile Decimal.isDigit :=
        Text.map_lowerAscii_of fun c member => (Host.digit_spec (Or.inr (List.mem_takeWhile_imp member))).2.1
      change (readPort scheme (more.map lowerAscii)).map Prod.fst = (readPort scheme more).map Prod.fst
      unfold readPort
      dsimp only
      rw [Text.takeWhile_lower digit, Text.dropWhile_lower digit, same, List.head?_map]
      have ends (o : Option Char) : (o.map lowerAscii).all endsArea =
          o.all endsArea := by
        cases o with
        | none => rfl
        | some c => exact mark c
      rw [ends]
      split
      · rfl
      · rfl
    · simp [readPort?, starts, colon, Except.map]

private theorem hostLength_lower (inside : Bool) (text : List Char) :
    hostLength inside (text.map lowerAscii) = hostLength inside text := by
  have colon (c : Char) : (lowerAscii c == ':') = (c == ':') :=
    Text.lowerAscii_invariant (f := (· == ':')) (by decide) c
  have open_ (c : Char) : (lowerAscii c == '[') = (c == '[') :=
    Text.lowerAscii_invariant (f := (· == '[')) (by decide) c
  have close (c : Char) : (lowerAscii c == ']') = (c == ']') :=
    Text.lowerAscii_invariant (f := (· == ']')) (by decide) c
  induction text generalizing inside with
  | nil => rfl
  | cons c rest ih => rw [List.map_cons, hostLength, hostLength, colon, open_, close, ih]

private theorem drop_hostLength (inside : Bool) (text : List Char) :
    (text.drop (hostLength inside text)).head?.all (· == ':') = true := by
  induction text generalizing inside with
  | nil => rfl
  | cons c rest ih =>
    unfold hostLength
    split
    next colon => exact (Bool.and_eq_true_iff.mp colon).1
    · exact ih _

/-- What stands behind a host, as far as the port goes. -/
private theorem readPort?_host {scheme : String} {host after : List Char}
    (whole : ∀ c ∈ host, endsArea c = false)
    (ends : after.head?.all endsArea = true) :
    readPort? scheme (host.drop (hostLength false host) ++ after) =
      ((readPort? scheme ((host.map lowerAscii).drop (hostLength false (host.map lowerAscii)))).map Prod.fst).map
        fun port => (port, after) := by
  have inside : ∀ c ∈ host.drop (hostLength false host), endsArea c = false := fun c member =>
    whole c (List.mem_of_mem_drop member)
  rw [readPort?_append inside (drop_hostLength false host) ends, hostLength_lower, ← List.map_drop, readPort?_lower]
  cases readPort? scheme (host.drop (hostLength false host)) with
  | error e => rfl
  | ok read => rfl

private theorem readHost_lower (credentials : Credentials) (area : List Char) :
    readHost .web credentials (area.map lowerAscii) = readHost .web credentials area := by
  have parse (text : List Char) : Host.parse .web (text.map lowerAscii) = Host.parse .web text :=
    Host.parseWeb_lower text
  unfold readHost
  dsimp only
  rw [hostLength_lower, ← List.map_take, parse, List.isEmpty_map, List.isEmpty_map]

/-- Users are read off what stands in front of a host. -/
private theorem splitCredentials_host {user host : List Char} (marked : user = [] ∨ ∃ front, user = front ++ ['@'])
    (named : host ≠ []) (free : '@' ∉ host) (atEnd : Bool) :
    splitCredentials (user ++ host) atEnd =
      .ok (if user = [] then ⟨"", none⟩ else readCredentials user.dropLast, host) := by
  rcases marked with rfl | ⟨front, rfl⟩
  · rw [List.nil_append, splitCredentials, splitLast_none free]
    rfl
  · rw [List.append_assoc, List.singleton_append, splitCredentials, splitLast_append free]
    cases host with
    | nil => exact absurd rfl named
    | cons c rest => simp

namespace Spelling.Fits

variable {s : Spelling}

private theorem ends_web (c : Char) : (isDivider .web c || endsPath c) = endsArea c :=
  congrArg (· || endsPath c) (congrArg (c == '/' || ·) (Bool.and_true _))

private theorem span_area {area after : List Char} (inside : ∀ c ∈ area, endsArea c = false)
    (ends : after.head?.all endsArea = true) :
    (area ++ after).takeWhile (fun c => !(isDivider .web c || endsPath c)) = area ∧
      (area ++ after).dropWhile (fun c => !(isDivider .web c || endsPath c)) = after := by
  simp only [ends_web]
  exact Text.span_append (fun c member => Bool.not_eq_eq_eq_not.mpr (inside c member)) after (by simpa using ends)

private theorem area_lower (fits : s.Fits) :
    ∀ c ∈ s.user ++ s.host.map lowerAscii, endsArea c = false := by
  intro c member
  rcases List.mem_append.mp member with user | host
  · exact fits.area c (List.mem_append_left _ user)
  · obtain ⟨d, inside, rfl⟩ := List.mem_map.mp host
    rw [Text.lowerAscii_invariant (f := endsArea) (by decide) d]
    exact fits.area d (List.mem_append_right _ inside)

private theorem path_ends (fits : s.Fits) (tail : List Char) (ends : tail.head?.all endsPath = true) :
    (s.path ++ tail).head?.all endsArea = true := by
  have starts := fits.path.2
  cases is : s.path with
  | nil =>
    cases tail with
    | nil => rfl
    | cons c rest => exact Bool.or_eq_true_iff.mpr (Or.inr ends)
  | cons c rest =>
    rw [is] at starts
    exact Bool.or_eq_true_iff.mpr (Or.inl starts)

/-- The authority of a spelling, as far as it counts. -/
theorem readAuthority {scheme : String} (web : SchemeKind.of scheme = .web) (fits : s.Fits) :
    Url.readAuthority scheme (s.user ++ (s.host ++ (s.path ++ s.tail))) =
      (Url.readAuthority scheme (s.user ++ (s.host.map lowerAscii ++ s.path))).map (finish .web · s.tail) := by
  obtain ⟨front, back⟩ := span_area fits.area (fits.path_ends s.tail fits.tail)
  obtain ⟨front', back'⟩ := span_area fits.area_lower (fits.path_ends [] rfl)
  rw [List.append_assoc, List.append_nil] at front' back'
  rw [List.append_assoc] at front back
  have named : s.host.map lowerAscii ≠ [] := fun none => fits.named (List.map_eq_nil_iff.mp none)
  have free : '@' ∉ s.host.map lowerAscii := by
    intro member
    obtain ⟨c, inside, is⟩ := List.mem_map.mp member
    exact fits.host ((Text.lowerAscii_eq_iff (by decide) c).mp is ▸ inside)
  unfold Url.readAuthority
  dsimp only
  rw [web, front, back, front', back', splitCredentials_host fits.user fits.named fits.host,
    splitCredentials_host fits.user named free]
  dsimp only [bind, Except.bind]
  rw [readHost_lower]
  cases readHost .web _ s.host with
  | error e => rfl
  | ok host =>
    dsimp only
    have whole : ∀ c ∈ s.host, endsArea c = false := fun c member =>
      fits.area c (List.mem_append_right _ member)
    have whole' : ∀ c ∈ s.host.map lowerAscii, endsArea c = false := fun c member =>
      fits.area_lower c (List.mem_append_right _ member)
    have paths := fits.path_ends [] rfl
    rw [List.append_nil] at paths
    rw [readPort?_host whole (fits.path_ends s.tail fits.tail), readPort?_host whole' paths, Text.map_lowerAscii_idem]
    cases readPort? scheme _ with
    | error e => rfl
    | ok read =>
      change Except.ok _ = Except.ok _
      rw [readTail_append fits.path.1 fits.path.2 fits.tail]

private theorem inScheme_of (fits : s.Fits) :
    (∀ c ∈ s.scheme, inScheme c = true) ∧ s.scheme.head?.any isLetter = true := by
  have letter (c : Char) : isLetter (lowerAscii c) = isLetter c := Text.lowerAscii_invariant (by decide) c
  have inside (c : Char) : inScheme (lowerAscii c) = inScheme c := Text.lowerAscii_invariant (by decide) c
  have spec : (∀ c ∈ s.scheme.map lowerAscii, inScheme c = true) ∧
      (s.scheme.map lowerAscii).head?.any isLetter = true := by
    rcases fits.scheme with is | is
    · exact is ▸ ⟨List.all_iff_forall_prop.mp (by decide), by decide⟩
    · exact is ▸ ⟨List.all_iff_forall_prop.mp (by decide), by decide⟩
  refine ⟨fun c member => inside c ▸ spec.1 _ (List.mem_map_of_mem member), ?_⟩
  have first := spec.2
  cases is : s.scheme with
  | nil =>
    rw [is] at first
    cases first
  | cons c rest =>
    rw [is] at first
    exact (letter c).symm.trans first

private theorem splitScheme_eq (fits : s.Fits) (rest : List Char) :
    splitScheme (s.scheme ++ ':' :: rest) = some (String.ofList (s.scheme.map lowerAscii), rest) := by
  obtain ⟨inside, first⟩ := fits.inScheme_of
  rw [splitScheme_append first inside, Text.lowerAsciiText, String.toList_ofList]

private theorem web (fits : s.Fits) : SchemeKind.of (String.ofList (s.scheme.map lowerAscii)) = .web := by
  rcases fits.scheme with is | is
  · rw [is]
    decide
  · rw [is]
    decide

/-- What a spelling reads as, as far as it counts. -/
theorem parse (fits : s.Fits) {text : String} (is : cleanInput text = s.text) : Url.parse text =
    (Url.readAuthority (String.ofList (s.scheme.map lowerAscii)) (s.user ++ (s.host.map lowerAscii ++ s.path))).map
      (finish .web · s.tail) := by
  have starts : (s.user ++ (s.host ++ (s.path ++ s.tail))).head?.all (!isSlash ·) = true := by
    have solid := fits.area
    rw [← List.append_assoc]
    cases shape : s.user ++ s.host with
    | nil => exact absurd (List.append_eq_nil_iff.mp shape).2 fits.named
    | cons c rest =>
      rw [shape] at solid
      exact Bool.not_eq_eq_eq_not.mpr (Bool.or_eq_false_iff.mp (solid c List.mem_cons_self)).1
  unfold Url.parse
  rw [is, Spelling.text, fits.splitScheme_eq]
  dsimp only
  unfold readAfterScheme
  rw [fits.web]
  dsimp only
  rw [(Text.span_append fits.slashes _ starts).2, fits.readAuthority fits.web]

end Spelling.Fits

/-! ### Each text of the web has a spelling -/

private theorem splitCredentials_spec {area rest : List Char} {atEnd : Bool} {credentials : Credentials}
    (read : splitCredentials area atEnd = .ok (credentials, rest)) :
    ∃ user, (user = [] ∨ ∃ front, user = front ++ ['@']) ∧ area = user ++ rest ∧ '@' ∉ rest := by
  unfold splitCredentials at read
  by_cases marked : '@' ∈ area
  · obtain ⟨back, front, is, free⟩ := List.eq_append_cons_of_mem (List.mem_reverse.mpr marked)
    have whole : area = front.reverse ++ '@' :: back.reverse := by
      rw [← area.reverse_reverse, is]
      simp
    have free : '@' ∉ back.reverse := by simpa using free
    have same : rest = back.reverse := by
      rw [whole, splitLast_append free] at read
      split at read
      next none => cases none
      next is =>
        split at read
        · cases read
          exact (Prod.mk.inj (Option.some.inj is)).2.symm
        · cases read
      next is =>
        cases read
        exact (Prod.mk.inj (Option.some.inj is)).2.symm
    exact ⟨front.reverse ++ ['@'], Or.inr ⟨_, rfl⟩, by rw [whole, same]; simp, same ▸ free⟩
  · rw [splitLast_none marked] at read
    cases read
    exact ⟨[], Or.inl rfl, rfl, marked⟩

private theorem named_of_readHost {credentials : Credentials} {area : List Char} {host : Host}
    (read : readHost .web credentials area = .ok host) : area ≠ [] := by
  rintro rfl
  cases read

private theorem scheme_of_splitScheme {text rest : List Char} {scheme : String}
    (split : splitScheme text = some (scheme, rest)) :
    ∃ written : List Char, text = written ++ ':' :: rest ∧ written.map lowerAscii = scheme.toList := by
  unfold splitScheme at split
  split at split
  next c more =>
    split at split
    next =>
      split at split
      next after =>
        cases split
        refine ⟨(c :: more).takeWhile inScheme, ?_, ?_⟩
        · rw [← after, List.takeWhile_append_dropWhile]
        · simp [Text.lowerAsciiText]
      · cases split
    · cases split
  · cases split

private theorem readTail_scheme (kind : SchemeKind) (url : Url) (text : List Char) :
    (readTail kind url text).scheme = url.scheme := by
  unfold readTail
  split
  · rfl
  · rfl

private theorem scheme_of_readAuthority {scheme : String} {text : List Char} {url : Url}
    (read : readAuthority scheme text = .ok url) : url.scheme = scheme := by
  unfold readAuthority at read
  dsimp only at read
  obtain ⟨_, -, read⟩ := except_bind_ok read
  obtain ⟨_, -, read⟩ := except_bind_ok read
  obtain ⟨_, -, read⟩ := except_bind_ok read
  cases read
  exact readTail_scheme _ _ _

private theorem scheme_of_readFile {text : List Char} {url : Url} (read : readFile text = .ok url) :
    url.scheme = "file" := by
  unfold readFile at read
  split at read
  · split at read
    · unfold readShared at read
      dsimp only at read
      split at read
      · cases read
        rfl
      · obtain ⟨_, -, read⟩ := except_bind_ok read
        cases read
        rfl
    · cases read
      rfl
  · cases read
    rfl

private theorem scheme_of_readAfterScheme {scheme : String} {text : List Char} {url : Url}
    (read : readAfterScheme scheme text = .ok url) : url.scheme = scheme := by
  unfold readAfterScheme at read
  split at read
  · exact scheme_of_readAuthority read
  next file => rw [scheme_of_file file, scheme_of_readFile read]
  · split at read
    · exact scheme_of_readAuthority read
    · cases read
      rfl
    · cases read
      rfl

private theorem Spelling.fits_of_readAuthority {written slashes text : List Char} {scheme : String}
    (lower : written.map lowerAscii = scheme.toList) (http : scheme = "http" ∨ scheme = "https")
    (slash : ∀ c ∈ slashes, isSlash c = true) {url : Url} (read : readAuthority scheme text = .ok url) :
    ∃ s : Spelling, s.Fits ∧ written ++ ':' :: (slashes ++ text) = s.text := by
  have web : SchemeKind.of scheme = .web := by
    rcases http with rfl | rfl
    all_goals decide
  unfold readAuthority at read
  dsimp only at read
  rw [web] at read
  obtain ⟨⟨credentials, host⟩, cut, read⟩ := except_bind_ok read
  obtain ⟨name, parsed, -⟩ := except_bind_ok read
  obtain ⟨user, marked, area, free⟩ := splitCredentials_spec cut
  have inside : ∀ c ∈ user ++ host, endsArea c = false := by
    intro c member
    rw [← area] at member
    have stays := List.mem_takeWhile_imp member
    rw [Fits.ends_web] at stays
    exact Bool.not_eq_eq_eq_not.mp stays
  have ends := List.head?_dropWhile_not (fun c => !(isDivider .web c || endsPath c)) text
  have split : text = user ++ host ++ text.dropWhile fun c => !(isDivider .web c || endsPath c) := by
    rw [← area, List.takeWhile_append_dropWhile]
  generalize text.dropWhile (fun c => !(isDivider .web c || endsPath c)) = after at ends split
  have ends' := List.head?_dropWhile_not (!endsPath ·) after
  refine ⟨⟨written, slashes, user, host, after.takeWhile (!endsPath ·), after.dropWhile (!endsPath ·)⟩,
    ⟨?_, slash, marked, inside, named_of_readHost parsed, free, ⟨fun c member => ?_, ?_⟩, ?_⟩, ?_⟩
  · rcases http with rfl | rfl
    · exact Or.inl lower
    · exact Or.inr lower
  · have stays := List.mem_takeWhile_imp (show c ∈ after.takeWhile (!endsPath ·) from member)
    exact Bool.not_eq_eq_eq_not.mp stays
  · cases after with
    | nil => rfl
    | cons c rest =>
      have mark : endsArea c = true := by
        rw [← Fits.ends_web]
        exact Bool.not_eq_eq_eq_not.mp ends
      cases stops : endsPath c with
      | true => simp [stops]
      | false =>
        rw [endsArea, stops, Bool.or_false] at mark
        simp [stops, mark]
  · generalize after.dropWhile (!endsPath ·) = tail at ends'
    cases tail with
    | nil => rfl
    | cons c rest => exact Bool.not_eq_eq_eq_not.mp ends'
  · rw [Spelling.text, List.takeWhile_append_dropWhile, split, List.append_assoc]

/-- A text that reads as a URL of the web has a spelling. -/
theorem exists_spelling {text : String} {url : Url} (read : parse text = .ok url) (http : url.IsHttp) :
    ∃ s : Spelling, s.Fits ∧ cleanInput text = s.text := by
  unfold parse at read
  split at read
  next scheme rest split =>
    obtain ⟨written, whole, lower⟩ := scheme_of_splitScheme split
    have same := scheme_of_readAfterScheme read
    have web := http.kind
    unfold IsHttp at http
    rw [same] at http web
    unfold readAfterScheme at read
    rw [web] at read
    obtain ⟨s, fits, is⟩ := Spelling.fits_of_readAuthority lower http
      (fun c member => List.mem_takeWhile_imp member : ∀ c ∈ rest.takeWhile isSlash, _) read
    refine ⟨s, fits, ?_⟩
    rw [whole, ← is, List.takeWhile_append_dropWhile]
  · cases read

/-! ### Normal forms -/

theorem normalize_spelling {s : Spelling} (fits : s.Fits) {text : String} (is : cleanInput (Text.trim text) = s.text) :
    normalize text =
      match readAuthority (String.ofList (s.scheme.map lowerAscii)) (s.user ++ (s.host.map lowerAscii ++ s.path)) with
      | .error e => .error (.unreadable e.message)
      | .ok url => (normal url).map Url.text := by
  unfold normalize
  rw [fits.parse is]
  cases readAuthority _ _ with
  | error e => rfl
  | ok url => exact congrArg (Except.map Url.text) (normal_finish .web url s.tail)

/-- Two texts whose spellings are alike. -/
def SpelledAlike (one two : String) : Prop :=
  ∃ s t : Spelling, s.Fits ∧ t.Fits ∧ s.Alike t ∧ cleanInput (Text.trim one) = s.text ∧
    cleanInput (Text.trim two) = t.text

theorem normalize_alike {one two : String} (alike : SpelledAlike one two) : normalize one = normalize two := by
  obtain ⟨s, t, fits, fits', alike, is, is'⟩ := alike
  rw [normalize_spelling fits is, normalize_spelling fits' is', alike.scheme, alike.user, alike.host, alike.path]

/-- URLs of the web that have a normal form share it just if they are the same. Whatever is spelled like one of them,
which each text of the web can be, shares its normal form too. -/
theorem normalize_eq_iff_same {first second : String} {a b : Url} (readA : parse (Text.trim first) = .ok a)
    (readB : parse (Text.trim second) = .ok b) (httpA : a.IsHttp) (httpB : b.IsHttp) {x y : String}
    (isA : normalize first = .ok x) (isB : normalize second = .ok y) :
    (x = y ↔ Same a b) ∧ SpelledAlike first first ∧ ∀ other, SpelledAlike first other → normalize other = .ok x := by
  refine ⟨?_, ?_, fun other alike => normalize_alike alike ▸ isA⟩
  · obtain ⟨_, _, settledA, bareA, bareSettledA, domainA, rfl⟩ := normalize_inv readA isA
    obtain ⟨_, _, settledB, bareB, bareSettledB, domainB, rfl⟩ := normalize_inv readB isB
    exact stripped_text_eq_iff_same httpA httpB settledA settledB bareSettledA bareSettledB domainA domainB
  · obtain ⟨s, fits, is⟩ := exists_spelling readA httpA
    exact ⟨s, s, fits, fits, ⟨rfl, rfl, rfl, rfl⟩, is, is⟩

/-- The URL of `HTTPS://user:pw@WWW.Example.com:443/a/b/?q#f`. -/
def loud : Url :=
  { scheme := "https", username := "user", password := some "pw", host := some (.name "www.example.com"), port := none,
    path := .segments ["a", "b", ""], query := some "q", fragment := some "f" }

/-- The URL of `https://user:pw@example.com/a/b`. -/
def quiet : Url :=
  { loud with host := some (.name "example.com"), path := .segments ["a", "b"], query := none, fragment := none }

theorem normalize_eq_iff_same_loud :
    parse (Text.trim "HTTPS://user:pw@WWW.Example.com:443/a/b/?q#f") = .ok loud ∧
      parse (Text.trim "https://user:pw@example.com/a/b") = .ok quiet ∧ loud.IsHttp ∧ quiet.IsHttp ∧
      normalize "HTTPS://user:pw@WWW.Example.com:443/a/b/?q#f" = .ok "https://user:pw@example.com/a/b" ∧
      normalize "https://user:pw@example.com/a/b" = .ok "https://user:pw@example.com/a/b" ∧ Same loud quiet ∧
      normalize "https://user:pw@wWw.example.COM:443/a/b/#g" = .ok "https://user:pw@example.com/a/b" := by
  have readA : parse (Text.trim "HTTPS://user:pw@WWW.Example.com:443/a/b/?q#f") = .ok loud := by decide +kernel
  have readB : parse (Text.trim "https://user:pw@example.com/a/b") = .ok quiet := by decide +kernel
  have isA : normalize "HTTPS://user:pw@WWW.Example.com:443/a/b/?q#f" = .ok "https://user:pw@example.com/a/b" := by
    decide +kernel
  have isB : normalize "https://user:pw@example.com/a/b" = .ok "https://user:pw@example.com/a/b" := by decide +kernel
  have https : loud.IsHttp ∧ quiet.IsHttp := ⟨Or.inr rfl, Or.inr rfl⟩
  obtain ⟨same, -, alike⟩ := normalize_eq_iff_same readA readB https.1 https.2 isA isB
  refine ⟨readA, readB, https.1, https.2, isA, isB, same.mp rfl, alike _ ?_⟩
  have user : "user:pw@".toList = [] ∨ ∃ front, "user:pw@".toList = front ++ ['@'] := Or.inr ⟨"user:pw".toList, rfl⟩
  exact ⟨⟨"HTTPS".toList, "//".toList, "user:pw@".toList, "WWW.Example.com:443".toList, "/a/b/".toList, "?q#f".toList⟩,
    ⟨"https".toList, "//".toList, "user:pw@".toList, "wWw.example.COM:443".toList, "/a/b/".toList, "#g".toList⟩,
    ⟨by decide, List.all_iff_forall_prop.mp (by decide), user, List.all_iff_forall_prop.mp (by decide), by decide,
      by decide, ⟨List.all_iff_forall_prop.mp (by decide), by decide⟩, by decide⟩,
    ⟨by decide, List.all_iff_forall_prop.mp (by decide), user, List.all_iff_forall_prop.mp (by decide), by decide,
      by decide, ⟨List.all_iff_forall_prop.mp (by decide), by decide⟩, by decide⟩,
    ⟨by decide, rfl, by decide, rfl⟩, by decide +kernel, by decide +kernel⟩

end Harvest.Url
