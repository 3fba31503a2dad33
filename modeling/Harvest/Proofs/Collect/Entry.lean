import Harvest.Collect.Entry
import Harvest.Proofs.Text.Blank

/-!
The texts of an entry and of its article. Wherever a text comes from, it has words and no blanks beyond single
spaces; and an address is the normal form of a link, or of an id in its place.
-/

namespace Harvest

open Text (Neat)

namespace Html

theorem readableText?_neat {element : Node} {text : String} (read : readableText? element = some text) :
    Neat text := by
  unfold readableText? at read
  dsimp only at read
  split at read
  · cases read
  next some =>
    cases read
    have collapsed : containerText element = Text.collapse (String.ofList (gatherAll element.children)) := by
      rw [containerText, Text.collapse, String.toList_ofList]
    rw [collapsed] at some ⊢
    exact Text.neat_collapse some

theorem toText_neat {fragment text : String} (read : toText fragment = some text) : Neat text :=
  readableText?_neat read

theorem extract_neat {page text : String} (read : extract page = some text) : Neat text := by
  obtain ⟨isContainer, -, found⟩ := List.exists_of_findSome?_eq_some read
  obtain ⟨element, -, read⟩ := List.exists_of_findSome?_eq_some found
  split at read
  · exact readableText?_neat read
  · cases read

end Html

namespace Feed.Entry

theorem tidyTitle?_neat {title text : String} (read : tidyTitle? title = some text) : Neat text := by
  unfold tidyTitle? at read
  dsimp only at read
  split at read
  · cases read
  next some =>
    cases read
    exact Text.neat_collapse some

theorem ownText?_neat {entry : Entry} {text : String} (read : entry.ownText? = some text) : Neat text := by
  have piece {source : Option String} (read : source.bind Html.toText = some text) : Neat text := by
    obtain ⟨fragment, -, read⟩ := Option.bind_eq_some_iff.mp read
    exact Html.toText_neat read
  unfold ownText? at read
  simp only [Option.or_eq_some_iff] at read
  rcases read with (summary | ⟨-, description⟩) | ⟨-, content | ⟨-, title⟩⟩
  · exact piece summary
  · exact piece description
  · exact piece content
  · obtain ⟨title, -, read⟩ := Option.bind_eq_some_iff.mp title
    exact tidyTitle?_neat read

/-- The address is the normal form of the entry's link, or else of its id if that is an address on the
web. -/
inductive HasAddress (entry : Entry) (address : String) : Prop where
  | link (link : String) (has : entry.link = some link) (normal : Url.normalize link = .ok address)
  | id (unlinked : ∀ link, entry.link = some link → ∃ fault, Url.normalize link = .error fault)
      (id : String) (has : entry.id = some (.given id)) (web : startsLikeUrl id = true)
      (normal : Url.normalize id = .ok address)

theorem hasAddress_of_address? {entry : Entry} {address : String} (found : entry.address? = some address) :
    entry.HasAddress address := by
  have normal_ok {text : String} (normal : (Url.normalize text).toOption = some address) :
      Url.normalize text = .ok address := by
    cases read : Url.normalize text with
    | error fault =>
      rw [read] at normal
      cases normal
    | ok url =>
      rw [read] at normal
      exact congrArg Except.ok (Option.some.inj normal)
  rcases Option.or_eq_some_iff.mp found with linked | ⟨unlinked, named⟩
  · obtain ⟨link, has, normal⟩ := Option.bind_eq_some_iff.mp linked
    exact .link link has (normal_ok normal)
  · obtain ⟨id, named, normal⟩ := Option.bind_eq_some_iff.mp named
    obtain ⟨named, web⟩ := Option.filter_eq_some_iff.mp named
    obtain ⟨name, has, given⟩ := Option.bind_eq_some_iff.mp named
    refine .id (fun link has => ?_) id ?_ web (normal_ok normal)
    · have none := Option.bind_eq_none_iff.mp unlinked link has
      cases read : Url.normalize link with
      | error fault => exact ⟨fault, rfl⟩
      | ok url =>
        rw [read] at none
        cases none
    · cases name with
      | given text => exact has.trans (congrArg some (congrArg EntryId.given (Option.some.inj given)))
      | fromLink | fresh => cases given

end Feed.Entry

end Harvest
