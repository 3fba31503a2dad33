import Harvest.Feed.Outline

/-!
RSS feeds of all versions. In versions up to 0.92 an item has a title, a link and a description; the
version built on RDF requires a link.
-/

namespace Harvest.Feed.Rss

/-- What has been read of a channel. -/
private structure Channel where
  title : Option String
  language : Option String
  /-- The items, latest first. -/
  items : List Draft

/-- The first fault is overlooked in texts of some plain names; items and channels deal with the faults
in them themselves. -/
private def overlooking (texts : List String) (e : Element) : Option Nat :=
  if e.vocabulary ≠ .plain then some 0
  else if ["item", "channel"].contains e.name then none
  else if texts.contains e.name then some 1
  else some 0

private def inItem : Element → Option Nat := overlooking ["title"]

private def inChannel : Element → Option Nat := overlooking ["title", "description", "copyright"]

private def addLink (draft : Draft) (e : Element) : Draft :=
  match e.text? with
  | some link => { draft with links := draft.links ++ [e.address link] }
  | none => draft

private def addAuthor (draft : Draft) (author : Option String) : Draft :=
  { draft with authors := draft.authors ++ author.toList }

/-- The elements that items of every version have. -/
private def addBasic (draft : Draft) (e : Element) : Except Fault Draft :=
  match e.vocabulary, e.name with
  | .plain, "title" => .ok { draft with title := e.title? }
  | .plain, "link" => .ok (addLink draft e)
  | .plain, "description" => do
    return { draft with summary := some (Text.trim (← e.markup)) }
  | _, _ => .ok draft

/-- The elements of modules that items of later versions may have. -/
private def addModules (draft : Draft) (e : Element) : Except Fault Draft :=
  match e.vocabulary, e.name with
  | .content, "encoded" => do return { draft with body := some (← e.markup) }
  | .dublinCore, "creator" => .ok (addAuthor draft e.text?)
  | .dublinCore, "date" => .ok { draft with published := e.date? }
  | _, _ => addBasic draft e

/-- An author is named for the role; only the address is given. -/
private def addItemPart (draft : Draft) (e : Element) : Except Fault Draft :=
  match e.vocabulary, e.name with
  | .plain, "author" => .ok (addAuthor draft (e.text?.map fun _ => "author"))
  | .plain, "guid" => .ok { draft with id := e.text?.getD draft.id }
  | .plain, "pubDate" => .ok { draft with published := e.date? }
  | .podcast, "summary" =>
    .ok { draft with mediaDescription := (e.text?.map Text.trim).or draft.mediaDescription }
  | .media, _ => e.addMedia draft
  | _, _ => addModules draft e

/-- An item of version 2; it counts as updated when it was published. -/
private def item (e : Element) : Except Fault Draft := do
  let draft ← e.fold inItem addItemPart .empty
  return { draft with updated := draft.published }

private def addChannelPart (readItem : Element → Except Fault Draft) (channel : Channel)
    (e : Element) : Except Fault Channel :=
  match e.vocabulary, e.name with
  | .plain, "title" => .ok { channel with title := e.title? }
  | .plain, "language" =>
    .ok { channel with language := e.text?.map Text.lower }
  | .plain, "item" => do
    return { channel with items := (← readItem e) :: channel.items }
  | _, _ => .ok channel

private def finish (channel : Channel) : Feed :=
  Feed.ofDrafts channel.title channel.language channel.items.reverse

private def emptyChannel : Channel := ⟨none, none, []⟩

/-- The first channel among the children of the root. -/
private def readChannel (readItem : Element → Except Fault Draft) (base : Option Url) :
    List Markup.Node → Except Fault Feed
  | [] => .error .noRoot
  | .fault :: _ => .error .brokenMarkup
  | .text _ :: rest => readChannel readItem base rest
  | .element name attributes children :: rest => do
    let e ← Element.of base name attributes children
    if e.name == "channel" then
      return finish (← e.fold inChannel (addChannelPart readItem) emptyChannel)
    else if Markup.Node.countFaults children ≠ 0 then .error .brokenMarkup
    else readChannel readItem base rest

/-- A feed of version 2. -/
def read (root : Element) : Except Fault Feed := readChannel item root.base root.children

/-- A feed of a version up to 0.92. -/
def readEarly (root : Element) : Except Fault Feed :=
  readChannel (fun e => e.fold inItem addBasic .empty) root.base root.children

private def addRdfChannelPart (channel : Channel) (e : Element) : Except Fault Channel :=
  match e.vocabulary, e.name with
  | .plain, "title" => .ok { channel with title := e.title? }
  | _, _ => .ok channel

private def addRdfPart (channel : Channel) (e : Element) : Except Fault Channel :=
  match e.vocabulary, e.name with
  | .plain, "channel" => e.fold inChannel addRdfChannelPart channel
  | .plain, "item" => do
    let draft ← e.fold inItem addModules .empty
    if draft.links.isEmpty then return channel
    else return { channel with items := draft :: channel.items }
  | _, _ => .ok channel

/-- A feed of the version built on RDF, whose items stand beside the channel. -/
def readRdf (root : Element) : Except Fault Feed := do
  return finish (← root.fold inChannel addRdfPart emptyChannel)

private theorem readChannel_unrepaired (readItem : Element → Except Fault Draft) (base : Option Url)
    (nodes : List Markup.Node) : Unrepaired (readChannel readItem base nodes) := by
  induction nodes with
  | nil => exact unrepaired_error _
  | cons node rest ih =>
    cases node with
    | fault => exact unrepaired_error _
    | text _ => exact ih
    | element name attributes children =>
      refine unrepaired_bind fun e => ?_
      split
      · exact unrepaired_bind fun _ => unrepaired_ofDrafts _ _ _
      · split
        · exact unrepaired_error _
        · exact ih

theorem read_unrepaired (root : Element) : Unrepaired (read root) := readChannel_unrepaired _ _ _

theorem readEarly_unrepaired (root : Element) : Unrepaired (readEarly root) := readChannel_unrepaired _ _ _

theorem readRdf_unrepaired (root : Element) : Unrepaired (readRdf root) :=
  unrepaired_bind fun _ => unrepaired_ofDrafts _ _ _

end Harvest.Feed.Rss
