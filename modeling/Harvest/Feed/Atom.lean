import Harvest.Feed.Outline

/-!
Atom feeds, and Atom entries that stand alone.
-/

namespace Harvest.Feed.Atom

/-- Kinds of text that an Atom text element may have. -/
private def textKinds : List String := ["text", "html", "xhtml", "text/html"]

private def text (e : Element) : Except Fault String := do
  let kind := (e.attribute? "type").getD "text"
  if textKinds.contains kind then return Text.trim (← e.markup)
  else throw (.contentType kind)

private def isTypeChar (c : Char) : Bool :=
  ('a' ≤ c && c ≤ 'z') || ('A' ≤ c && c ≤ 'Z') || ('0' ≤ c && c ≤ '9') ||
    "!#$&-^_.+".toList.contains c

/-- Whether a name is that of a media type, such as `image/png`. -/
private def isMediaType (name : String) : Bool :=
  match (name.toList.takeWhile (· != ';')).span (· != '/') with
  | (type, _ :: subtype) =>
    !type.isEmpty && !subtype.isEmpty && type.all isTypeChar && (Text.trimEnd subtype).all isTypeChar
  | (_, []) => false

private def endsWith (name mark : String) : Bool := mark.toList.reverse.isPrefixOf name.toList.reverse

/-- The content that stands in an entry. Content that stands elsewhere is none. -/
private def content (e : Element) : Except Fault (Option String) := do
  let kind := (e.attribute? "type").getD "text"
  if (e.attribute? "src").isSome then
    if !textKinds.contains kind && !isMediaType kind then throw (.contentType kind)
    else if (← e.markup).isEmpty then return none
    else throw (.missingContent "non-empty atom:content with src")
  else if textKinds.contains kind || endsWith kind "+xml" || endsWith kind "/xml" then some <$> text e
  else if isMediaType kind then
    match e.text? with
    | some body => return some body
    | none => throw (.missingContent "content.inline")
  else throw (.contentType kind)

/-- The name of a person, the last of several. -/
private def personName (e : Element) : Except Fault String :=
  e.fold Element.strictly (fun name child =>
    .ok (if child.name == "name" then child.text?.getD name else name)) "unknown"

private def addPart (draft : Draft) (e : Element) : Except Fault Draft :=
  match e.vocabulary, e.name with
  | .atom, "id" => .ok { draft with id := (e.text?.map Text.trim).getD draft.id }
  | .atom, "title" => do return { draft with title := some (← text e) }
  | .atom, "summary" => do return { draft with summary := some (← text e) }
  | .atom, "rights" => do
    let _ ← text e
    return draft
  | .atom, "content" => do return { draft with body := ← content e }
  | .atom, "link" =>
    .ok { draft with links := draft.links ++ ((e.attribute? "href").map e.address).toList }
  | .atom, "author" => do return { draft with authors := draft.authors ++ [← personName e] }
  | .atom, "contributor" => do
    let _ ← personName e
    return draft
  | .atom, "published" => .ok { draft with published := e.date? }
  | .atom, "updated" => .ok { draft with updated := e.date? }
  | .media, _ => e.addMedia draft
  | _, _ => .ok draft

private def entry (e : Element) : Except Fault Draft := e.fold Element.strictly addPart .empty

private structure State where
  title : Option String
  /-- The entries, latest first. -/
  entries : List Draft

private def addFeedPart (state : State) (e : Element) : Except Fault State :=
  match e.vocabulary, e.name with
  | .atom, "title" => do return { state with title := some (← text e) }
  | .atom, "rights" | .atom, "subtitle" => do
    let _ ← text e
    return state
  | .atom, "author" | .atom, "contributor" => do
    let _ ← personName e
    return state
  | .atom, "entry" => do return { state with entries := (← entry e) :: state.entries }
  | _, _ => .ok state

/-- A feed in the language that its root names. -/
def read (root : Element) : Except Fault Feed := do
  let state ← root.fold Element.strictly addFeedPart ⟨none, []⟩
  return Feed.ofDrafts state.title (root.attribute? "xml:lang") state.entries.reverse

/-- A feed of one entry. -/
def readEntry (root : Element) : Except Fault Feed := do
  return Feed.ofDrafts none none [← entry root]

theorem read_unrepaired (root : Element) : Unrepaired (read root) :=
  unrepaired_bind fun _ => unrepaired_ofDrafts _ _ _

theorem readEntry_unrepaired (root : Element) : Unrepaired (readEntry root) :=
  unrepaired_bind fun _ => unrepaired_ofDrafts _ _ _

end Harvest.Feed.Atom
