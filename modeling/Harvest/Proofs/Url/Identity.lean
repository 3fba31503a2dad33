import Harvest.Proofs.Url.RoundTrip

/-!
The identity of articles. A normal form reads back, so it says which URLs share it: those that agree in scheme,
user, port, host and path, as far as these count. Only the last slash of a path is taken off, so what has several
takes several rounds until nothing changes.
-/

namespace Harvest.Url

/-- The domain of a URL without its leading `www` labels, empty where nothing is left of it. -/
def bareDomain (url : Url) : List Char := bareHost (url.domain?.getD "").toList

def IsHttp (url : Url) : Prop := url.scheme = "http" ∨ url.scheme = "https"

/-- The port of a URL, also where the scheme implies it. -/
def effectivePort? (url : Url) : Option Nat := url.port.or (defaultPort url.scheme)

/-- The URL that a host and the path of a URL identify. -/
def stripped (url : Url) (host : Host) : Url :=
  { url with host := some host, path := url.path.withoutLastSlash, query := none, fragment := none }

theorem stripped_text (url : Url) (host : Host) : (url.stripped host).text =
    url.scheme ++ ":" ++ ("//" ++ url.credentials ++ host.text ++ url.portText) ++ url.path.withoutLastSlash.text := by
  change _ ++ _ ++ "" ++ "" = _
  rw [String.append_empty, String.append_empty]
  rfl

variable {url : Url} {host bare : Host} {list : List String}

/-! ### One round -/

namespace Settled

theorem domain?_eq (settled : url.Settled host list) (named : host.text.toList ≠ []) :
    url.domain? = some (Text.lowerAsciiText host.text) := by
  have full : host.text.isEmpty = false := by simpa using named
  rw [domain?, settled.hostText?_eq, full]
  rfl

theorem bareDomain_eq (settled : url.Settled host list) :
    url.bareDomain = bareHost (host.text.toList.map Text.lowerAscii) := by
  by_cases empty : host.text.toList = []
  · have none : host.text.isEmpty = true := String.isEmpty_iff.mpr (String.toList_eq_nil_iff.mp empty)
    rw [bareDomain, domain?, settled.hostText?_eq, none, empty]
    rfl
  · rw [bareDomain, settled.domain?_eq empty, Option.getD_some, Text.lowerAsciiText, String.toList_ofList]

private theorem parse_empty {kind : SchemeKind} (strict : kind ≠ .general) :
    Host.parse kind [] = .error .emptyHost := by
  cases kind with
  | web => rfl
  | file => rfl
  | general => exact absurd rfl strict

/-- A host of which nothing is left is refused, unless the general rules hold. -/
theorem normal_empty (settled : url.Settled host list) (strict : SchemeKind.of url.scheme ≠ .general)
    (empty : url.bareDomain = []) : normal url = .error (.malformed "Failed to set host: empty host") := by
  have none : bareHost (Text.lowerAsciiText host.text).toList = [] := by
    rw [Text.lowerAsciiText, String.toList_ofList, ← settled.bareDomain_eq, empty]
  unfold normal
  rw [settled.domain?_eq (settled.hostSettled.named strict)]
  dsimp only
  rw [none, withHost, parse_empty strict]
  rfl

theorem normal_bare (settled : url.Settled host list) (named : host.text.toList ≠ [])
    (left : SchemeKind.of url.scheme = .general ∨ url.bareDomain ≠ []) :
    ∃ bare : Host, bare.Settled (SchemeKind.of url.scheme) ∧ bare.text.toList = url.bareDomain ∧
      normal url = .ok (url.stripped bare) := by
  rw [settled.bareDomain_eq] at left ⊢
  obtain ⟨bare, bareSettled, is⟩ := settled.hostSettled.bare left
  have set : bareHost (Text.lowerAsciiText host.text).toList = bare.text.toList := by
    rw [Text.lowerAsciiText, String.toList_ofList, is]
  refine ⟨bare, bareSettled, is, ?_⟩
  unfold normal
  rw [settled.domain?_eq named]
  dsimp only
  rw [set, withHost, bareSettled.parse]
  rfl

/-- What is identified is a URL with a path, as it is read. -/
theorem stripped (settled : url.Settled host list) (bareSettled : bare.Settled (SchemeKind.of url.scheme)) :
    ∃ first rest, (url.stripped bare).Settled bare (first :: rest) := by
  obtain ⟨first, rest, is, path, driveless⟩ := isPath_withoutLastSlash settled.segments
  refine ⟨first, rest, settled.isScheme, rfl, bareSettled, settled.credentials, settled.port, ?_, path, fun file => ?_⟩
  · rw [← is, ← settled.path]
    rfl
  · obtain ⟨user, pass, port, drive⟩ := settled.file file
    exact ⟨user, pass, port, driveless drive⟩

/-- The path of what is identified. -/
theorem withoutLastSlash_text (settled : url.Settled host list) :
    url.path.withoutLastSlash.text.toList = withoutSlash url.path.text.toList := by
  rw [settled.path, Path.withoutLastSlash_text settled.segments]

theorem bareDomain_stripped (settled : url.Settled host list) (bareSettled : bare.Settled (SchemeKind.of url.scheme))
    (is : bare.text.toList = url.bareDomain) : (url.stripped bare).bareDomain = url.bareDomain := by
  obtain ⟨first, rest, strippedSettled⟩ := settled.stripped bareSettled
  have lower : (bareHost (host.text.toList.map Text.lowerAscii)).map Text.lowerAscii =
      bareHost (host.text.toList.map Text.lowerAscii) := by
    refine Text.map_lowerAscii_of fun c member => ?_
    obtain ⟨c, -, rfl⟩ := List.mem_map.mp (bareHost_subset member)
    exact Text.lowerAscii_idem c
  rw [strippedSettled.bareDomain_eq, is, settled.bareDomain_eq, lower, bareHost_idem]

end Settled

private theorem normal_nameless (none : url.hostText? = none) : normal url = .error .missingDomain := by
  rw [normal, domain?, none]
  rfl

/-- Where a text has a normal form, this is the text of a URL with its bare host. -/
theorem normalize_inv {text normalText : String} (read : parse (Text.trim text) = .ok url)
    (is : normalize text = .ok normalText) : ∃ host list, url.Settled host list ∧
      ∃ bare : Host, bare.Settled (SchemeKind.of url.scheme) ∧ bare.text.toList = url.bareDomain ∧
        normalText = (url.stripped bare).text := by
  rw [normalize, read] at is
  change (normal url).map Url.text = _ at is
  rcases settled_of_parse read with ⟨host, list, settled⟩ | ⟨none, -⟩
  · refine ⟨host, list, settled, ?_⟩
    by_cases named : host.text.toList = []
    · have none : url.hostText? = none := by
        rw [settled.hostText?_eq, String.isEmpty_iff.mpr (String.toList_eq_nil_iff.mp named), if_pos rfl]
      rw [normal_nameless none] at is
      cases is
    · by_cases left : SchemeKind.of url.scheme = .general ∨ url.bareDomain ≠ []
      · obtain ⟨bare, bareSettled, text, normal⟩ := settled.normal_bare named left
        rw [normal] at is
        cases is
        exact ⟨bare, bareSettled, text, rfl⟩
      · obtain ⟨strict, empty⟩ := not_or.mp left
        rw [settled.normal_empty strict (Classical.not_not.mp empty)] at is
        cases is
  · rw [normal_nameless none] at is
    cases is

/-! ### Another round -/

/-- Whether the text of a URL without its `www` labels still has a host when it is read. -/
def KeepsHost (url : Url) : Prop := url.bareDomain ≠ [] ∧ ¬ (url.scheme = "file" ∧ url.bareDomain = "localhost".toList)

theorem normalize_stripped (settled : url.Settled host list) (bareSettled : bare.Settled (SchemeKind.of url.scheme))
    (is : bare.text.toList = url.bareDomain) (keeps : url.KeepsHost) :
    parse (Text.trim (url.stripped bare).text) = .ok (url.stripped bare) ∧
      normalize (url.stripped bare).text = .ok ((url.stripped bare).stripped bare).text := by
  obtain ⟨first, rest, strippedSettled⟩ := settled.stripped bareSettled
  have named : bare.text.toList ≠ [] := is ▸ keeps.1
  have remote (file : url.scheme = "file") : bare ≠ .name "localhost" := by
    rintro rfl
    exact keeps.2 ⟨file, is.symm⟩
  have read := strippedSettled.parse_text ⟨rfl, rfl⟩ named remote
  have domain := settled.bareDomain_stripped bareSettled is
  obtain ⟨again, againSettled, text, normal⟩ := strippedSettled.normal_bare named (Or.inr (domain ▸ keeps.1))
  have same : again = bare := againSettled.eq_of_text bareSettled (by rw [text, domain, is])
  refine ⟨read, ?_⟩
  rw [normalize, read]
  dsimp only
  rw [normal, same]
  rfl

theorem normalize_stripped_ne (settled : url.Settled host list)
    (bareSettled : bare.Settled (SchemeKind.of url.scheme)) (is : bare.text.toList = url.bareDomain)
    (loses : ¬ url.KeepsHost) (text : String) : normalize (url.stripped bare).text ≠ .ok text := by
  obtain ⟨first, rest, strippedSettled⟩ := settled.stripped bareSettled
  have nameless : bare.text.toList = [] ∨ url.scheme = "file" ∧ bare = .name "localhost" := by
    refine (Classical.not_and_iff_not_or_not.mp loses).imp (fun empty => ?_) fun local_ => ?_
    · rw [is, Classical.not_not.mp empty]
    · obtain ⟨file, name⟩ := Classical.not_not.mp local_
      have parsed := bareSettled.parse
      rw [file, is, name] at parsed
      have known : Host.parse .file "localhost".toList = .ok (.name "localhost") := by decide +kernel
      exact ⟨file, Except.ok.inj (parsed.symm.trans known)⟩
  intro ok
  unfold normalize at ok
  split at ok
  · cases ok
  next again read =>
    rw [normal_nameless (strippedSettled.hostText?_of_parse_text ⟨rfl, rfl⟩ nameless read)] at ok
    cases ok

/-- Another round takes another slash off. -/
theorem stripped_text_eq_iff (settled : url.Settled host list)
    (bareSettled : bare.Settled (SchemeKind.of url.scheme)) :
    ((url.stripped bare).stripped bare).text = (url.stripped bare).text ↔
      withoutSlash (withoutSlash url.path.text.toList) = withoutSlash url.path.text.toList := by
  obtain ⟨first, rest, strippedSettled⟩ := settled.stripped bareSettled
  have once : (url.stripped bare).path.text.toList = withoutSlash url.path.text.toList := settled.withoutLastSlash_text
  have twice := strippedSettled.withoutLastSlash_text
  rw [once] at twice
  have front : ((url.stripped bare).stripped bare).text =
      url.scheme ++ ":" ++ ("//" ++ url.credentials ++ bare.text ++ url.portText) ++
        (url.stripped bare).path.withoutLastSlash.text := stripped_text _ bare
  rw [front, stripped_text, String.append_right_inj, ← String.toList_inj, twice, settled.withoutLastSlash_text]

/-- Where a text has a normal form, this is its own one just if it keeps its host and has no slash left to lose. -/
theorem normalize_idem_iff {text normalText : String} (read : parse (Text.trim text) = .ok url)
    (is : normalize text = .ok normalText) : normalize normalText = .ok normalText ↔
      url.KeepsHost ∧ withoutSlash (withoutSlash url.path.text.toList) = withoutSlash url.path.text.toList := by
  obtain ⟨host, list, settled, bare, bareSettled, domain, rfl⟩ := normalize_inv read is
  by_cases keeps : url.KeepsHost
  · rw [(normalize_stripped settled bareSettled domain keeps).2, Except.ok.injEq,
      stripped_text_eq_iff settled bareSettled]
    exact (and_iff_right keeps).symm
  · exact iff_of_false (normalize_stripped_ne settled bareSettled domain keeps _) fun both => keeps both.1

/-! ### URLs of the web -/

theorem IsHttp.kind (http : url.IsHttp) : SchemeKind.of url.scheme = .web := by
  rcases http with is | is
  · rw [is]
    decide
  · rw [is]
    decide

theorem IsHttp.settled (http : url.IsHttp) {text : String} (read : parse text = .ok url) :
    ∃ host list, url.Settled host list :=
  (settled_of_parse read).resolve_right fun nameless => nameless.2 http.kind

theorem IsHttp.notFile (http : url.IsHttp) : url.scheme ≠ "file" := by
  rcases http with is | is
  · rw [is]
    decide
  · rw [is]
    decide

theorem IsHttp.strict (http : url.IsHttp) : SchemeKind.of url.scheme ≠ .general := by
  rw [http.kind]
  decide

theorem IsHttp.keepsHost (http : url.IsHttp) {kind : SchemeKind} (is : SchemeKind.of url.scheme = kind)
    (bareSettled : bare.Settled kind) (domain : bare.text.toList = url.bareDomain) : url.KeepsHost :=
  ⟨domain ▸ bareSettled.named (is ▸ http.strict), fun local_ => http.notFile local_.1⟩

/-- A URL of the web has a normal form unless its host is nothing but `www` labels. -/
theorem IsHttp.normalize (http : url.IsHttp) {text : String} (read : parse (Text.trim text) = .ok url) :
    if url.bareDomain = [] then normalize text = .error (.malformed "Failed to set host: empty host")
    else ∃ normalText, normalize text = .ok normalText := by
  obtain ⟨host, list, settled⟩ := http.settled read
  have whole : Url.normalize text = (normal url).map Url.text := by rw [Url.normalize, read]
  rw [whole]
  split
  next empty => rw [settled.normal_empty http.strict empty]; rfl
  next some =>
    obtain ⟨bare, -, -, normal⟩ := settled.normal_bare (settled.hostSettled.named http.strict) (Or.inr some)
    exact ⟨_, by rw [normal]; rfl⟩

/-- A URL of the web has a normal form unless its host is nothing but `www` labels, and then the normal form has one
as well. A normal form, of whatever scheme, is its own just if reading it gives a host again and its path has no
further slash to lose. -/
theorem normalize_ok_and_idem_iff {text : String} {url : Url} (read : parse (Text.trim text) = .ok url) :
    (url.IsHttp → if url.bareDomain = [] then normalize text = .error (.malformed "Failed to set host: empty host")
      else ∃ once twice, normalize text = .ok once ∧ normalize once = .ok twice) ∧
    ∀ once, normalize text = .ok once → (normalize once = .ok once ↔
      url.KeepsHost ∧ withoutSlash (withoutSlash url.path.text.toList) = withoutSlash url.path.text.toList) := by
  refine ⟨fun http => ?_, fun once is => normalize_idem_iff read is⟩
  have outcome := http.normalize read
  split at outcome
  next empty => rwa [if_pos empty]
  next some =>
    rw [if_neg some]
    obtain ⟨once, is⟩ := outcome
    obtain ⟨host, list, settled, bare, bareSettled, domain, same⟩ := normalize_inv read is
    have keeps : url.KeepsHost := http.keepsHost rfl bareSettled domain
    exact ⟨once, _, is, same ▸ (normalize_stripped settled bareSettled domain keeps).2⟩

/-- The URL of `http://www.a.example/b//`. -/
def twoSlashes : Url :=
  { scheme := "http", username := "", password := none, host := some (.name "www.a.example"), port := none,
    path := .segments ["b", "", ""], query := none, fragment := none }

theorem normalize_ok_and_idem_iff_twoSlashes :
    parse (Text.trim "http://www.a.example/b//") = .ok twoSlashes ∧ twoSlashes.IsHttp ∧
      (∃ once twice, normalize "http://www.a.example/b//" = .ok once ∧ normalize once = .ok twice) ∧
      normalize "http://www.a.example/b//" = .ok "http://a.example/b/" ∧
      normalize "http://a.example/b/" ≠ .ok "http://a.example/b/" := by
  have read : parse (Text.trim "http://www.a.example/b//") = .ok twoSlashes := by decide +kernel
  have once : normalize "http://www.a.example/b//" = .ok "http://a.example/b/" := by decide +kernel
  have rounds := normalize_ok_and_idem_iff read
  have some : twoSlashes.bareDomain ≠ [] := by decide +kernel
  have left : withoutSlash (withoutSlash twoSlashes.path.text.toList) ≠ withoutSlash twoSlashes.path.text.toList := by
    decide +kernel
  refine ⟨read, Or.inl rfl, ?_, once, fun twice => left ((rounds.2 _ once).mp twice).2⟩
  have both := rounds.1 (Or.inl rfl)
  rwa [if_neg some] at both

/-- The URL of `https://www./`. -/
def onlyLabels : Url :=
  { scheme := "https", username := "", password := none, host := some (.name "www."), port := none,
    path := .segments [""], query := none, fragment := none }

/-- Neither does each URL of the web have a normal form, nor is each normal form its own. -/
theorem normalize_not_total_nor_idem :
    (¬ ∀ text url, parse (Text.trim text) = .ok url → url.IsHttp → ∃ once, normalize text = .ok once) ∧
      ¬ ∀ text once, normalize text = .ok once → normalize once = .ok once := by
  constructor
  · intro total
    have read : parse (Text.trim "https://www./") = .ok onlyLabels := by decide +kernel
    have fails : normalize "https://www./" = .error (.malformed "Failed to set host: empty host") := by decide +kernel
    obtain ⟨once, is⟩ := total _ _ read (Or.inr rfl)
    cases fails.symm.trans is
  · intro idem
    have once : normalize "http://a.example/b//" = .ok "http://a.example/b/" := by decide +kernel
    have twice : normalize "http://a.example/b/" = .ok "http://a.example/b" := by decide +kernel
    exact absurd ((idem _ _ once).symm.trans twice) (by decide)

/-! ### Which URLs share a normal form -/

/-- URLs that count as the same. -/
structure Same (a b : Url) : Prop where
  scheme : a.scheme = b.scheme
  username : a.username = b.username
  password : a.password = b.password
  port : a.effectivePort? = b.effectivePort?
  host : a.bareDomain = b.bareDomain
  path : withoutSlash a.path.text.toList = withoutSlash b.path.text.toList

private theorem port_eq {scheme : String} {p q : Option Nat} (fits : PortFits scheme p) (others : PortFits scheme q)
    (same : p.or (defaultPort scheme) = q.or (defaultPort scheme)) : p = q := by
  cases p with
  | none =>
    cases q with
    | none => rfl
    | some n => exact absurd same (others n rfl).2
  | some m =>
    cases q with
    | none => exact absurd same.symm (fits m rfl).2
    | some n => exact same

/-- Normal forms of the web agree just where the URLs do: they read back, so nothing of them is lost. -/
theorem stripped_text_eq_iff_same {a b : Url} {host host' bare bare' : Host} {list list' : List String}
    (httpA : a.IsHttp) (httpB : b.IsHttp) (settledA : a.Settled host list) (settledB : b.Settled host' list')
    (bareA : bare.Settled (SchemeKind.of a.scheme)) (bareB : bare'.Settled (SchemeKind.of b.scheme))
    (domainA : bare.text.toList = a.bareDomain) (domainB : bare'.text.toList = b.bareDomain) :
    (a.stripped bare).text = (b.stripped bare').text ↔ Same a b := by
  constructor
  · intro text
    have readA := (normalize_stripped settledA bareA domainA (httpA.keepsHost rfl bareA domainA)).1
    have readB := (normalize_stripped settledB bareB domainB (httpB.keepsHost rfl bareB domainB)).1
    rw [text, readB] at readA
    obtain ⟨scheme, user, pass, name, port, path, -⟩ := Url.mk.inj (Except.ok.inj readA)
    refine ⟨scheme.symm, user.symm, pass.symm, ?_, ?_, ?_⟩
    · rw [effectivePort?, effectivePort?, scheme, port]
    · rw [← domainA, ← domainB, Option.some.inj name]
    · rw [← settledA.withoutLastSlash_text, ← settledB.withoutLastSlash_text, path]
  · intro same
    have port : a.port = b.port :=
      port_eq settledA.port (same.scheme ▸ settledB.port) (by
        have port := same.port
        rwa [effectivePort?, effectivePort?, ← same.scheme] at port)
    have path : a.path.withoutLastSlash.text = b.path.withoutLastSlash.text := by
      rw [← String.toList_inj, settledA.withoutLastSlash_text, settledB.withoutLastSlash_text, same.path]
    have name : bare.text = bare'.text := by
      rw [← String.toList_inj, domainA, domainB, same.host]
    have user : a.credentials = b.credentials := by
      rw [credentials, credentials, same.username, same.password]
    have portText : a.portText = b.portText := by
      rw [Url.portText, Url.portText, port]
    rw [stripped_text, stripped_text, same.scheme, user, name, portText, path]

end Harvest.Url
