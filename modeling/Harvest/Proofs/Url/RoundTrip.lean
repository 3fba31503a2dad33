import Harvest.Proofs.Outcome
import Harvest.Proofs.Url.Authority
import Harvest.Proofs.Url.Path

/-!
URLs as they are read. A URL with a host and a path, but without query and fragment, reads back from its text.
-/

namespace Harvest.Url

/-- A scheme as it is read. -/
structure IsScheme (scheme : String) : Prop where
  start : scheme.toList.head?.any isLetter = true
  inside : ∀ c ∈ scheme.toList, inScheme c = true
  lower : ∀ c ∈ scheme.toList, Text.lowerAscii c = c

/-- A URL with a host, as it is read. -/
structure Settled (url : Url) (host : Host) (list : List String) : Prop where
  isScheme : IsScheme url.scheme
  isHost : url.host = some host
  hostSettled : host.Settled (SchemeKind.of url.scheme)
  credentials : Credentials.Settled ⟨url.username, url.password⟩
  port : PortFits url.scheme url.port
  path : url.path = .segments list
  segments : IsPath (SchemeKind.of url.scheme) list
  file : SchemeKind.of url.scheme = .file → url.username = "" ∧ url.password = none ∧ url.port = none ∧
    list.head?.any (isDriveLetter ·.toList) = false

/-- A URL without query and fragment. -/
structure Plain (url : Url) : Prop where
  query : url.query = none
  fragment : url.fragment = none

/-! ### Schemes -/

private theorem scheme_spec {c : Char} (inside : inScheme c = true) :
    Text.IsVisible c ∧ inScheme (Text.lowerAscii c) = true ∧
      (isLetter c = true → isLetter (Text.lowerAscii c) = true) := by
  have ascii : c.toNat < 128 := by
    simp only [inScheme, Bool.or_eq_true, beq_iff_eq] at inside
    rcases inside with (((letter | digit) | rfl) | rfl) | rfl
    · exact ascii_of_isLetter letter
    · exact Host.ascii_of_isDigit digit
    all_goals decide
  exact Text.forall_ascii (P := fun c => inScheme c = true → Text.IsVisible c ∧
    inScheme (Text.lowerAscii c) = true ∧ (isLetter c = true → isLetter (Text.lowerAscii c) = true))
    (by decide) ascii inside

theorem isScheme_of_splitScheme {text rest : List Char} {scheme : String}
    (split : splitScheme text = some (scheme, rest)) : IsScheme scheme := by
  unfold splitScheme at split
  split at split
  next c more =>
    split at split
    next letter =>
      split at split
      next after =>
        cases split
        have first : (c :: more).takeWhile inScheme = c :: more.takeWhile inScheme := by
          simp [inScheme, letter]
        have text : (Text.lowerAsciiText (String.ofList ((c :: more).takeWhile inScheme))).toList =
            ((c :: more).takeWhile inScheme).map Text.lowerAscii := by
          simp [Text.lowerAsciiText]
        have inside (x : Char) (member : x ∈ (c :: more).takeWhile inScheme) : inScheme x = true :=
          List.mem_takeWhile_imp member
        refine ⟨?_, ?_, ?_⟩
        · rw [text, first]
          exact (scheme_spec (inside c (first ▸ List.mem_cons_self))).2.2 letter
        · rw [text]
          intro x member
          obtain ⟨y, here, rfl⟩ := List.mem_map.mp member
          exact (scheme_spec (inside y here)).2.1
        · rw [text]
          intro x member
          obtain ⟨y, -, rfl⟩ := List.mem_map.mp member
          exact Text.lowerAscii_idem y
      · cases split
    · cases split
  · cases split

theorem splitScheme_append {scheme : List Char} (start : scheme.head?.any isLetter = true)
    (inside : ∀ c ∈ scheme, inScheme c = true) (rest : List Char) :
    splitScheme (scheme ++ ':' :: rest) = some (Text.lowerAsciiText (String.ofList scheme), rest) := by
  obtain ⟨front, back⟩ := Text.span_append inside (':' :: rest) rfl
  cases scheme with
  | nil => cases start
  | cons c more =>
    have letter : isLetter c = true := start
    unfold splitScheme
    rw [front, back, List.cons_append]
    dsimp only
    rw [letter, if_pos rfl]
    rfl

theorem splitScheme_text {scheme : String} (is : IsScheme scheme) (rest : List Char) :
    splitScheme (scheme.toList ++ ':' :: rest) = some (scheme, rest) := by
  rw [splitScheme_append is.start is.inside, String.ofList_toList, Text.lowerAsciiText,
    Text.map_lowerAscii_of is.lower, String.ofList_toList]

/-! ### What is read -/

theorem scheme_of_file {scheme : String} (file : SchemeKind.of scheme = .file) : scheme = "file" := by
  unfold SchemeKind.of at file
  split at file
  · cases file
  · split at file
    next is => exact eq_of_beq is
    · cases file

theorem finish_eq (kind : SchemeKind) (url : Url) (rest : List Char) :
    finish kind url rest = { url with query := (readQuery kind rest).1, fragment := (readQuery kind rest).2 } := rfl

private theorem readTail_spec {kind : SchemeKind} (notFile : kind ≠ .file) (url : Url) (bare : url.path = .segments [])
    (text : List Char) : ∃ list query fragment, IsPath kind list ∧
      readTail kind url text = { url with path := .segments list, query, fragment } := by
  unfold readTail
  split
  · refine ⟨[], (readQuery kind text).1, (readQuery kind text).2, ⟨nofun, fun file => absurd file notFile⟩, ?_⟩
    rw [finish_eq, ← bare]
  · exact ⟨_, _, _, isPath_readPath _, rfl⟩

private theorem settled_of_readHost {kind : SchemeKind} {credentials : Credentials} {area : List Char} {host : Host}
    (read : readHost kind credentials area = .ok host) : host.Settled kind := by
  unfold readHost at read
  dsimp only at read
  split at read
  · cases read
  · obtain ⟨known, parsed, read⟩ := except_bind_ok read
    split at read
    · cases read
    · cases read
      exact Host.settled_of_parse parsed

theorem Settled.hostText?_eq {url : Url} {host : Host} {list : List String} (settled : url.Settled host list) :
    url.hostText? = if host.text.isEmpty then none else some host.text := by
  rw [hostText?, settled.isHost]

theorem settled_of_readAuthority {scheme : String} (isScheme : IsScheme scheme)
    (notFile : SchemeKind.of scheme ≠ .file) {text : List Char} {url : Url}
    (read : readAuthority scheme text = .ok url) : ∃ host list, url.Settled host list := by
  unfold readAuthority at read
  dsimp only at read
  obtain ⟨⟨credentials, area⟩, split, read⟩ := except_bind_ok read
  obtain ⟨host, parsed, read⟩ := except_bind_ok read
  obtain ⟨⟨port, rest⟩, fits, read⟩ := except_bind_ok read
  cases read
  obtain ⟨list, query, fragment, path, is⟩ := readTail_spec notFile
    { scheme, username := credentials.username, password := credentials.password, host := some host, port,
      path := .segments [], query := none, fragment := none } rfl rest
  rw [is]
  exact ⟨host, list, isScheme, rfl, settled_of_readHost parsed,
    settled_splitCredentials split, portFits_readPort? fits, rfl, path, fun file => absurd file notFile⟩

/-- A URL without a host or with an empty one, which the web does not have. -/
def Nameless (url : Url) : Prop := url.hostText? = none ∧ SchemeKind.of url.scheme ≠ .web

private theorem nameless_readLocal (text : List Char) : (readLocal text).Nameless :=
  ⟨rfl, (by decide : SchemeKind.of "file" ≠ .web)⟩

private theorem settled_of_readShared {text : List Char} {url : Url} (read : readShared text = .ok url) :
    (∃ host list, url.Settled host list) ∨ url.Nameless := by
  unfold readShared at read
  dsimp only at read
  split at read
  · cases read
    exact Or.inr (nameless_readLocal text)
  · obtain ⟨host, parsed, read⟩ := except_bind_ok read
    cases read
    have path : IsPath .file (readPath .file [] (dropDivider .file (text.dropWhile
        fun c => !(isDivider .file c || endsPath c)))).1 := isPath_readPath _
    generalize readPath .file [] _ = known at path ⊢
    obtain ⟨list, rest⟩ := known
    dsimp only at path ⊢
    have notWeb : SchemeKind.of "file" ≠ .web := by decide
    cases hidden : host == .name "localhost" || list.head?.any (isDriveLetter ·.toList) with
    | true => exact Or.inr ⟨rfl, notWeb⟩
    | false =>
      split at parsed
      · cases parsed
        exact Or.inr ⟨rfl, notWeb⟩
      · have isScheme : IsScheme "file" :=
          ⟨by decide, List.all_iff_forall_prop.mp (by decide), List.all_iff_forall_prop.mp (by decide)⟩
        have drive := (Bool.or_eq_false_iff.mp hidden).2
        exact Or.inl ⟨host, list, isScheme, rfl, Host.settled_of_parse parsed, ⟨nofun, nofun⟩, nofun, rfl, path,
          fun _ => ⟨rfl, rfl, rfl, drive⟩⟩

theorem settled_of_parse {text : String} {url : Url} (read : parse text = .ok url) :
    (∃ host list, url.Settled host list) ∨ url.Nameless := by
  unfold parse at read
  split at read
  next scheme rest split =>
    have isScheme := isScheme_of_splitScheme split
    unfold readAfterScheme at read
    split at read
    next web => exact Or.inl (settled_of_readAuthority isScheme (by rw [web]; decide) read)
    next file =>
      unfold readFile at read
      split at read
      · split at read
        · exact settled_of_readShared read
        · cases read
          exact Or.inr (nameless_readLocal _)
      · cases read
        exact Or.inr (nameless_readLocal _)
    next general =>
      have notWeb : SchemeKind.of scheme ≠ .web := by
        rw [general]
        decide
      split at read
      · exact Or.inl (settled_of_readAuthority isScheme (by rw [general]; decide) read)
      · cases read
        exact Or.inr ⟨rfl, notWeb⟩
      · cases read
        exact Or.inr ⟨rfl, notWeb⟩
  · cases read

/-! ### What is written -/

private theorem cleanInput_of_visible {text : String} (visible : ∀ c ∈ text.toList, Text.IsVisible c) :
    cleanInput text = text.toList := by
  have solid (c : Char) (member : c ∈ text.toList) : decide (c.toNat ≤ 32) = false :=
    decide_eq_false (Nat.not_le.mpr (visible c member).1)
  unfold cleanInput
  dsimp only
  rw [Text.dropWhile_of_none solid, Text.dropWhile_of_none fun c member => solid c (List.mem_reverse.mp member),
    List.reverse_reverse, List.filter_eq_self]
  intro c member
  have kept : Text.IsVisible c → (c != '\t' && c != '\n' && c != '\r') = true :=
    Text.forall_ascii (P := fun c => Text.IsVisible c → (c != '\t' && c != '\n' && c != '\r') = true) (by decide)
      (Nat.lt_trans (visible c member).2 (by decide))
  exact kept (visible c member)

/-- What stands behind the first slash of a path. -/
def pathBody (first : String) (rest : List String) : List Char := first.toList ++ rest.flatMap ('/' :: ·.toList)

variable {url : Url} {host : Host} {first : String} {rest : List String}

namespace Settled

/-- The authority, as it is written. -/
def area (url : Url) (host : Host) : List Char :=
  url.credentials.toList ++ (host.text.toList ++ url.portText.toList)

private theorem mem_area (settled : url.Settled host (first :: rest)) {c : Char} (member : c ∈ area url host) :
    InAuthority c := by
  rcases List.mem_append.mp member with user | member
  · exact mem_credentials settled.credentials user
  · rcases List.mem_append.mp member with name | port
    · exact (settled.hostSettled.inside name).1
    · exact (mem_portText port).1

private theorem span_area (settled : url.Settled host (first :: rest)) (kind : SchemeKind) (path : List Char) :
    (area url host ++ '/' :: path).takeWhile (fun c => !(isDivider kind c || endsPath c)) = area url host ∧
      (area url host ++ '/' :: path).dropWhile (fun c => !(isDivider kind c || endsPath c)) = '/' :: path := by
  have inside : ∀ c ∈ area url host, (!(isDivider kind c || endsPath c)) = true := fun c member =>
    Bool.not_eq_eq_eq_not.mpr ((settled.mem_area member).whole kind)
  exact Text.span_append inside ('/' :: path) rfl

theorem text_toList (settled : url.Settled host (first :: rest)) (plain : url.Plain) : url.text.toList =
    url.scheme.toList ++ ':' :: '/' :: '/' :: (area url host ++ '/' :: pathBody first rest) := by
  have path : url.path.text.toList = '/' :: pathBody first rest := by
    rw [settled.path, Path.segments_toList]
    rfl
  unfold text authority
  rw [settled.isHost, plain.query, plain.fragment]
  simp [area, path]

private theorem readTail_text (settled : url.Settled host (first :: rest))
    (notFile : SchemeKind.of url.scheme ≠ .file) (bare : Url) :
    readTail (SchemeKind.of url.scheme) bare ('/' :: pathBody first rest) =
      { bare with path := .segments (first :: rest), query := none, fragment := none } := by
  have path := readPath_text settled.segments fun file => absurd file notFile
  unfold readTail
  have slash : isDivider (SchemeKind.of url.scheme) '/' = true := rfl
  have drop : dropDivider (SchemeKind.of url.scheme) ('/' :: pathBody first rest) = pathBody first rest := by
    simp [dropDivider, slash]
  have more : (SchemeKind.of url.scheme == .general && ('/' :: pathBody first rest).head?.all endsPath) = false := by
    simp [endsPath]
  rw [more, if_neg Bool.false_ne_true, drop]
  unfold pathBody
  rw [path]
  rfl

private theorem readAuthority_text (settled : url.Settled host (first :: rest)) (plain : url.Plain)
    (notFile : SchemeKind.of url.scheme ≠ .file) (named : host.text.toList ≠ []) :
    readAuthority url.scheme (area url host ++ '/' :: pathBody first rest) = .ok url := by
  obtain ⟨front, back⟩ := settled.span_area (SchemeKind.of url.scheme) (pathBody first rest)
  have free : '@' ∉ host.text.toList ++ url.portText.toList := by
    intro member
    rcases List.mem_append.mp member with name | port
    · exact (settled.hostSettled.inside name).2 rfl
    · exact (mem_portText port).2 rfl
  have length : hostLength false (host.text.toList ++ url.portText.toList) = host.text.toList.length := by
    rw [hostLength_text settled.hostSettled, hostLength_portText, Nat.add_zero]
  unfold readAuthority
  dsimp only
  rw [front, back, area, splitCredentials_text settled.credentials free]
  dsimp only [bind, Except.bind]
  rw [readHost_text settled.hostSettled named _ (hostLength_portText url)]
  dsimp only
  rw [length, List.drop_left, readPort?_text settled.port]
  dsimp only
  rw [settled.readTail_text notFile]
  obtain ⟨scheme, username, password, _, port, _, _, _⟩ := url
  cases settled.isHost
  cases settled.path
  cases plain.query
  cases plain.fragment
  rfl

private theorem hostText?_of_readAuthority (settled : url.Settled host (first :: rest))
    (notFile : SchemeKind.of url.scheme ≠ .file) (empty : host.text.toList = []) {again : Url}
    (read : readAuthority url.scheme (area url host ++ '/' :: pathBody first rest) = .ok again) :
    again.hostText? = none := by
  obtain ⟨front, back⟩ := settled.span_area (SchemeKind.of url.scheme) (pathBody first rest)
  have free : '@' ∉ url.portText.toList := fun member => (mem_portText member).2 rfl
  unfold readAuthority at read
  dsimp only at read
  rw [front, back, area, empty, List.nil_append, splitCredentials_text settled.credentials free] at read
  obtain ⟨_, same, read⟩ := except_bind_ok read
  cases same
  obtain ⟨nobody, parsed, read⟩ := except_bind_ok read
  obtain ⟨⟨port, rest⟩, -, read⟩ := except_bind_ok read
  cases read
  have general : SchemeKind.of url.scheme = .general :=
    Classical.not_not.mp fun strict => settled.hostSettled.named strict empty
  rw [general] at parsed
  obtain ⟨list, query, fragment, -, is⟩ := readTail_spec notFile
    { scheme := url.scheme, username := url.username, password := url.password, host := some nobody, port,
      path := .segments [], query := none, fragment := none } rfl rest
  rw [is, readHost_empty (hostLength_portText url) parsed]
  rfl

private theorem readShared_text (settled : url.Settled host (first :: rest)) (plain : url.Plain) (file : url.scheme = "file") :
    readShared (area url host ++ '/' :: pathBody first rest) =
      .ok { url with host := some (if host = .name "localhost" then .name "" else host) } := by
  have kind : SchemeKind.of url.scheme = .file := by
    rw [file]
    rfl
  obtain ⟨front, back⟩ := settled.span_area .file (pathBody first rest)
  obtain ⟨user, pass, port, drive⟩ := settled.file kind
  have path := settled.segments
  have hostSettled := settled.hostSettled
  rw [kind] at path hostSettled
  have whole : area url host = host.text.toList := by
    simp [area, Url.credentials, portText, user, pass, port]
  have full : host.text.toList.isEmpty = false := by simpa using hostSettled.named (by decide)
  have drop : dropDivider .file ('/' :: pathBody first rest) = pathBody first rest := rfl
  have hidden : (host == .name "localhost" || (first :: rest).head?.any (isDriveLetter ·.toList)) =
      decide (host = .name "localhost") := by
    rw [drive, Bool.or_false]
    rfl
  unfold readShared
  dsimp only
  rw [front, back, whole, hostSettled.noDrive, full, hostSettled.parse, drop]
  dsimp only [bind, Except.bind]
  rw [pathBody, readPath_text path fun _ => drive, if_neg Bool.false_ne_true, if_neg Bool.false_ne_true]
  dsimp only
  rw [hidden]
  obtain ⟨scheme, username, password, _, port, _, _, _⟩ := url
  cases settled.path
  cases plain.query
  cases plain.fragment
  cases file
  cases user
  cases pass
  cases port
  simp only [decide_eq_true_eq]
  rfl

private theorem dropWhile_area (settled : url.Settled host (first :: rest))
    (strict : SchemeKind.of url.scheme ≠ .general) (path : List Char) :
    ('/' :: '/' :: (area url host ++ path)).dropWhile isSlash = area url host ++ path := by
  have some : area url host ≠ [] := fun none =>
    settled.hostSettled.named strict (List.append_eq_nil_iff.mp (List.append_eq_nil_iff.mp none).2).1
  have inside {c : Char} (member : c ∈ area url host) : InAuthority c := settled.mem_area member
  generalize area url host = whole at some inside ⊢
  cases whole with
  | nil => exact absurd rfl some
  | cons c more =>
    have solid : isSlash c = false := (inside List.mem_cons_self).2.1
    have slash : isSlash '/' = true := rfl
    rw [List.dropWhile_cons, slash, if_pos rfl, List.dropWhile_cons, slash, if_pos rfl, List.cons_append,
      List.dropWhile_cons, solid, if_neg Bool.false_ne_true]

private theorem visible (settled : url.Settled host (first :: rest)) (plain : url.Plain) :
    ∀ c ∈ url.text.toList, Text.IsVisible c := by
  intro c member
  rw [settled.text_toList plain] at member
  simp only [List.mem_append, List.mem_cons, pathBody, List.mem_flatMap] at member
  rcases member with scheme | rfl | rfl | rfl | area | rfl | here | ⟨segment, known, rfl | here⟩
  · exact (scheme_spec (settled.isScheme.inside c scheme)).1
  any_goals decide
  · exact (settled.mem_area area).1
  · exact ((settled.segments.segment first List.mem_cons_self).plain c here).visible
  · exact ((settled.segments.segment segment (List.mem_cons_of_mem _ known)).plain c here).visible

private theorem parse_text_eq (settled : url.Settled host (first :: rest)) (plain : url.Plain) : parse (Text.trim url.text) =
      if url.scheme = "file" then readShared (area url host ++ '/' :: pathBody first rest)
      else readAuthority url.scheme (area url host ++ '/' :: pathBody first rest) := by
  have visible := settled.visible plain
  rw [Text.trim_of_visible visible, parse, cleanInput_of_visible visible, settled.text_toList plain,
    splitScheme_text settled.isScheme]
  dsimp only
  unfold readAfterScheme
  split
  next web =>
    have other : url.scheme ≠ "file" := by
      rintro file
      rw [file] at web
      cases web
    rw [if_neg other, settled.dropWhile_area (by rw [web]; decide)]
  next file => rw [if_pos (scheme_of_file file)]; rfl
  next general =>
    have other : url.scheme ≠ "file" := by
      rintro file
      rw [file] at general
      cases general
    rw [if_neg other]
    rfl

/-- A URL with a host and a path, but without query and fragment, reads back from its text, except that the local
host of files loses its name. -/
theorem parse_text (settled : url.Settled host (first :: rest)) (plain : url.Plain) (named : host.text.toList ≠ [])
    (remote : url.scheme = "file" → host ≠ .name "localhost") : parse (Text.trim url.text) = .ok url := by
  rw [settled.parse_text_eq plain]
  split
  next file =>
    rw [settled.readShared_text plain file, if_neg (remote file), ← settled.isHost]
  next other => exact settled.readAuthority_text plain (fun file => other (scheme_of_file file)) named

/-- Without a name, or with the local host of files, the text reads back as a URL without a host, if at all. -/
theorem hostText?_of_parse_text (settled : url.Settled host (first :: rest)) (plain : url.Plain)
    (nameless : host.text.toList = [] ∨ url.scheme = "file" ∧ host = .name "localhost") {again : Url}
    (read : parse (Text.trim url.text) = .ok again) : again.hostText? = none := by
  rw [settled.parse_text_eq plain] at read
  split at read
  next file =>
    rw [settled.readShared_text plain file] at read
    have local_ : host = .name "localhost" := by
      refine nameless.elim (fun empty => ?_) And.right
      refine absurd empty (settled.hostSettled.named ?_)
      rw [file]
      decide
    rw [if_pos local_] at read
    cases read
    rfl
  next other =>
    have empty := nameless.resolve_right fun local_ => other local_.1
    exact settled.hostText?_of_readAuthority (fun file => other (scheme_of_file file)) empty read

end Settled

end Harvest.Url
