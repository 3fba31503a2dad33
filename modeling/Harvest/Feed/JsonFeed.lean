import Harvest.Feed.Basic
import Harvest.Json.Parser
import Harvest.Time.MailDate
import Harvest.Url.Parser

/-!
JSON feeds. A member that the format knows must have the right type and stand once; other members
are overlooked.
-/

namespace Harvest.Feed.JsonFeed

/-- The member of a name, if there is one and it is not null. A second one is a fault. -/
private def member? (json : Json) (name : String) : Except Fault (Option Json) :=
  match json with
  | .object members =>
    match members.filter fun m => m.1 == name with
    | [] => .ok none
    | [(_, .null)] => .ok none
    | [(_, value)] => .ok (some value)
    | _ => .error .brokenJson
  | _ => .error .brokenJson

private def asText : Json → Except Fault String
  | .string text => .ok text
  | _ => .error .brokenJson

private def asNat : Json → Except Fault Nat
  | .int n => if 0 ≤ n && n < (Nat.pow 2 64 : Nat) then .ok n.toNat else .error .brokenJson
  | _ => .error .brokenJson

private def asFlag : Json → Except Fault Bool
  | .bool b => .ok b
  | _ => .error .brokenJson

private def asList (read : Json → Except Fault α) : Json → Except Fault (List α)
  | .array items => items.mapM read
  | _ => .error .brokenJson

private def optional (json : Json) (name : String) (read : Json → Except Fault α) :
    Except Fault (Option α) := do
  match ← member? json name with
  | some value => some <$> read value
  | none => return none

private def required (json : Json) (name : String) (read : Json → Except Fault α) :
    Except Fault α := do
  match ← optional json name read with
  | some value => return value
  | none => throw .brokenJson

private def texts (json : Json) (names : List String) : Except Fault Unit :=
  names.forM fun name => do
    let _ ← optional json name asText

/-- The name of an author. -/
private def author (json : Json) : Except Fault (Option String) := do
  texts json ["url", "avatar"]
  optional json "name" asText

private def authors (json : Json) : Except Fault (List String) := do
  let single ← optional json "author" author
  let several ← optional json "authors" (asList author)
  return (single.toList ++ several.getD []).filterMap id

/-- The address of an attachment. -/
private def attachment (json : Json) : Except Fault String := do
  texts json ["title"]
  let _ ← required json "mime_type" asText
  let _ ← optional json "size_in_bytes" asNat
  let _ ← optional json "duration_in_seconds" asNat
  required json "url" asText

private def hub (json : Json) : Except Fault Unit := do
  let _ ← required json "type" asText
  let _ ← required json "url" asText

private def address (link : String) : String :=
  match Url.parse link with
  | .ok url => url.text
  | .error _ => link

/-- HTML content comes first; plain content beside it serves as the summary if there is none. -/
private def item (json : Json) : Except Fault Draft := do
  texts json ["image", "banner_image"]
  let _ ← optional json "tags" (asList asText)
  let id ← optional json "id" asText
  let url ← optional json "url" asText
  let external ← optional json "external_url" asText
  let title ← optional json "title" asText
  let html ← optional json "content_html" asText
  let plain ← optional json "content_text" asText
  let summary ← optional json "summary" asText
  let published ← optional json "date_published" asText
  let modified ← optional json "date_modified" asText
  let attachments ← optional json "attachments" (asList attachment)
  let authors ← authors json
  let date (text : String) : Option Instant := MailDate.readFeedDate text
  return { Draft.empty with
    id := Text.trim (id.getD "")
    links := (url.toList ++ external.toList ++ attachments.getD []).map address
    title := title.map Text.trim
    summary := (summary.or (if html.isSome then plain else none)).map Text.trim
    body := (html.or plain).map Text.trim
    published := published.bind date
    updated := modified.bind date
    authors }

def versionStart : String := "https://jsonfeed.org/version/1"

/-- The feed a value describes. Items without an author have those of the feed. -/
def ofJson (json : Json) : Except Fault Feed := do
  let version ← required json "version" asText
  let title ← required json "title" asText
  texts json ["home_page_url", "feed_url", "description", "user_comment", "next_url", "icon", "favicon"]
  let language ← optional json "language" asText
  let _ ← optional json "expired" asFlag
  let _ ← optional json "hubs" (asList hub)
  let shared ← authors json
  let drafts ← required json "items" (asList item)
  if !versionStart.toList.isPrefixOf version.toList then throw (.version version)
  let drafts := drafts.map fun draft =>
    if draft.authors.isEmpty then { draft with authors := shared } else draft
  return Feed.ofDrafts (some (Text.trim title)) language drafts

/-- The feed in a document. -/
def read (document : List UInt8) : Except Fault Feed :=
  match (Text.Utf8.decode? document).bind Json.parse? with
  | some json => ofJson json
  | none => .error .brokenJson

theorem ofJson_unrepaired (json : Json) : Unrepaired (ofJson json) := by
  refine unrepaired_bind fun version => unrepaired_bind fun title => unrepaired_bind fun _ =>
    unrepaired_bind fun language => unrepaired_bind fun _ => unrepaired_bind fun _ => unrepaired_bind fun shared =>
    unrepaired_bind fun drafts => ?_
  dsimp only
  split
  · exact unrepaired_error _
  · exact unrepaired_ofDrafts _ _ _

theorem read_unrepaired (document : List UInt8) : Unrepaired (read document) := by
  unfold read
  split
  · exact ofJson_unrepaired _
  · exact unrepaired_error _

end Harvest.Feed.JsonFeed
