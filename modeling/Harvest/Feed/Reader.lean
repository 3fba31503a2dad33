import Harvest.Feed.Atom
import Harvest.Feed.JsonFeed
import Harvest.Feed.Repair
import Harvest.Feed.Rss

/-!
Reading feeds of any format. A document that cannot be read is repaired and read once more.
-/

namespace Harvest.Feed

open Markup (Node)

/-- The first element of a document, unless a fault comes before it. -/
private def root? : List Node → Option (Except Fault Element)
  | [] => none
  | .fault :: _ => none
  | .text _ :: rest => root? rest
  | .element name attributes children :: _ => some (Element.of none name attributes children)

private def readMarkup (document : List UInt8) : Except Fault Feed :=
  match root? (Markup.parse document) with
  | some (.ok root) =>
    match root.name, root.attribute? "version" with
    | "feed", _ => Atom.read root
    | "entry", _ => Atom.readEntry root
    | "rss", some "2.0" => Rss.read root
    | "rss", some "0.91" | "rss", some "0.92" => Rss.readEarly root
    | "RDF", _ => Rss.readRdf root
    | _, _ => .error .noRoot
  | some (.error _) | none => .error .noRoot

/-- How far into a document the mark may stand that shows its format. -/
def markReach : Nat := 8192

/-- Reads a document as it is. -/
def readStrict (document : List UInt8) : Except Fault Feed :=
  match (document.take markReach).find? fun b => b == 60 || b == 123 with
  | some b => if b == 60 then readMarkup document else JsonFeed.read document
  | none => .error .noRoot

private theorem readMarkup_unrepaired (document : List UInt8) : Unrepaired (readMarkup document) := by
  unfold readMarkup
  split
  · split
    · exact Atom.read_unrepaired _
    · exact Atom.readEntry_unrepaired _
    · exact Rss.read_unrepaired _
    · exact Rss.readEarly_unrepaired _
    · exact Rss.readEarly_unrepaired _
    · exact Rss.readRdf_unrepaired _
    · exact unrepaired_error _
  · exact unrepaired_error _
  · exact unrepaired_error _

theorem readStrict_unrepaired (document : List UInt8) : Unrepaired (readStrict document) := by
  unfold readStrict
  split
  · split
    · exact readMarkup_unrepaired document
    · exact JsonFeed.read_unrepaired document
  · exact unrepaired_error _

/-- Reads a document, and its repaired form if it is broken. The fault is that of the repaired form. -/
def read (document : List UInt8) : Except Fault Feed :=
  match readStrict document with
  | .ok feed => .ok feed
  | .error _ =>
    match readStrict (repair document) with
    | .ok feed => .ok { feed with recovered := true }
    | .error fault => .error fault

end Harvest.Feed
