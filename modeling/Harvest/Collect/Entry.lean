import Harvest.Digest.Sha256
import Harvest.Feed.Basic
import Harvest.Html.Reader
import Harvest.Url.Normalize

/-!
What an entry says about itself: its address, and the text that stands in for an article.
-/

namespace Harvest.Feed.Entry

/-- Whether a text starts like an address on the web. -/
def startsLikeUrl (text : String) : Bool :=
  "http://".toList.isPrefixOf text.toList || "https://".toList.isPrefixOf text.toList

/-- The normal form of an entry's link, or else of its id if that is an address. -/
def address? (entry : Entry) : Option String :=
  (entry.link.bind fun link => (Url.normalize link).toOption).or
    (((entry.id.bind EntryId.text?).filter startsLikeUrl).bind fun id =>
      (Url.normalize id).toOption)

/-- A text with its words in a row, if it has any. -/
def tidyTitle? (title : String) : Option String :=
  let tidy := Text.collapse title
  if tidy.isEmpty then none else some tidy

/-- The text of an entry itself: its summary, its description, the first piece of its content or its
title, whichever has words first. -/
def ownText? (entry : Entry) : Option String :=
  ((entry.summary.bind Html.toText).or (entry.description.bind Html.toText)).or
    ((entry.content.head?.bind Html.toText).or (entry.title.bind tidyTitle?))

/-- What an entry is called in reports. -/
def label (entry : Entry) : String :=
  (entry.link.or (entry.id.bind EntryId.text?)).getD "<entry without link>"

end Harvest.Feed.Entry

namespace Harvest.Collect

/-- The digest by which equal contents are known. -/
def contentHash (content : String) : String := Digest.Sha256.hexOfText content

end Harvest.Collect
