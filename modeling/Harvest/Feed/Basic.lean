import Harvest.Text.Blank
import Harvest.Time.Instant

/-!
Feeds and their entries. All parts of an entry but its content are optional.
-/

namespace Harvest

/-- The name of an entry: its own, or one made up for an entry without one, from its link or afresh. -/
inductive Feed.EntryId where
  | given (text : String)
  | fromLink
  | fresh
  deriving DecidableEq

/-- The text of an id that the feed gave. -/
def Feed.EntryId.text? : EntryId → Option String
  | given text => some text
  | fromLink | fresh => none

structure Feed.Entry where
  link : Option String
  id : Option EntryId
  title : Option String
  summary : Option String
  description : Option String
  content : List String
  published : Option Instant
  updated : Option Instant
  author : Option String
  language : Option String
  deriving DecidableEq

/-- The time of an entry: when it was published, or else when it was updated. -/
def Feed.Entry.timestamp (entry : Entry) : Option Instant := entry.published.or entry.updated

structure Feed where
  title : Option String
  language : Option String
  entries : List Feed.Entry
  /-- Whether the document had to be repaired. -/
  recovered : Bool
  deriving DecidableEq

namespace Feed

/-- Why a document is no feed. -/
inductive Fault where
  | noRoot
  | brokenMarkup
  | brokenJson
  | contentType (name : String)
  | missingContent (what : String)
  | version (text : String)
  deriving DecidableEq

def Fault.message : Fault → String
  | noRoot => "unable to parse feed: no root element"
  | brokenMarkup => "unable to parse XML: the markup is broken"
  | brokenJson => "unable to parse JSON: the document does not describe a feed"
  | contentType name => "unable to parse feed: unsupported content type " ++ name
  | missingContent what => "unable to parse feed: missing content element " ++ what
  | version text => "unsupported version: " ++ text

/-- An entry as its format describes it. -/
structure Draft where
  id : String
  links : List String
  title : Option String
  summary : Option String
  body : Option String
  /-- The descriptions of the entry's media groups, in order. -/
  groupDescriptions : List String
  /-- The description of the media outside of groups. -/
  mediaDescription : Option String
  published : Option Instant
  updated : Option Instant
  authors : List String

namespace Draft

def empty : Draft :=
  { id := "", links := [], title := none, summary := none, body := none, groupDescriptions := [],
    mediaDescription := none, published := none, updated := none, authors := [] }

/-- The first of the links with anything in it. -/
private def firstLink (links : List String) : Option String := links.findSome? Text.trimmed?

private def entryId (draft : Draft) : Option EntryId :=
  if draft.id.isEmpty then some (if draft.links.isEmpty then .fresh else .fromLink)
  else (Text.trimmed? draft.id).map .given

/-- The entry a draft stands for, in a feed of some language. -/
def entry (draft : Draft) (language : Option String) : Entry :=
  { link := firstLink draft.links
    id := draft.entryId
    title := draft.title
    summary := draft.summary
    description := (draft.groupDescriptions ++ draft.mediaDescription.toList).head?
    content := (draft.body.filter fun body => !Text.isBlankText body).toList
    published := draft.published
    updated := draft.updated
    author := draft.authors.head?.bind Text.trimmed?
    language }

end Draft

/-- The feed of a title, a language and some drafts. A blank language is none. -/
def ofDrafts (title language : Option String) (drafts : List Draft) : Feed :=
  let language := language.filter fun name => !Text.isBlankText name
  { title, language, entries := drafts.map fun draft => draft.entry language, recovered := false }

/-- If a feed comes out, its document was not repaired. -/
def Unrepaired (outcome : Except Fault Feed) : Prop := ∀ feed, outcome = .ok feed → feed.recovered = false

theorem unrepaired_ofDrafts (title language : Option String) (drafts : List Draft) :
    Unrepaired (.ok (ofDrafts title language drafts)) := by
  intro feed is
  cases is
  rfl

theorem unrepaired_error (fault : Fault) : Unrepaired (.error fault) := fun _ => nofun

theorem unrepaired_bind {α : Type} {first : Except Fault α} {next : α → Except Fault Feed}
    (all : ∀ a, Unrepaired (next a)) : Unrepaired (first >>= next) := by
  cases first with
  | error fault => exact unrepaired_error fault
  | ok a => exact all a

end Feed

end Harvest
