import Harvest.Feed.Basic
import Harvest.Markup.Node
import Harvest.Text.Lower
import Harvest.Time.MailDate
import Harvest.Url.Parser

/-!
What the feed formats in angle brackets have in common: the vocabularies of their elements, the walk
over an element's children, links, texts, and media.
-/

namespace Harvest.Feed

open Markup (Node Name)

/-- The vocabulary of an element. Names without a namespace belong to the feed format itself. -/
inductive Vocabulary where
  | plain
  | atom
  | content
  | dublinCore
  | media
  | podcast
  | foreign
  deriving DecidableEq

def Vocabulary.ofSpace : Option String → Vocabulary
  | none => .plain
  | some uri =>
    match uri with
    | "http://purl.org/rss/1.0/" => .plain
    | "http://www.w3.org/2005/Atom" => .atom
    | "http://purl.org/rss/1.0/modules/content/" => .content
    | "http://purl.org/dc/elements/1.1/" => .dublinCore
    | "http://search.yahoo.com/mrss/" => .media
    | "http://www.itunes.com/dtds/podcast-1.0.dtd" => .podcast
    | _ => .foreign

/-- An element in its place: `base` is what its relative links refer to. -/
structure Element where
  vocabulary : Vocabulary
  name : String
  attributes : List (String × String)
  base : Option Url
  children : List Node

namespace Element

def attribute? (e : Element) (name : String) : Option String :=
  Markup.attribute? e.attributes name

/-- The base of an element's links. -/
private def baseOf (outer : Option Url) (attributes : List (String × String)) :
    Except Fault (Option Url) :=
  match Markup.attribute? attributes "xml:base" with
  | none => .ok outer
  | some text =>
    match Url.parse text, outer with
    | .ok url, _ => .ok (some url)
    | .error .relativeWithoutBase, none => .ok none
    | .error .relativeWithoutBase, some base =>
      match Url.resolve base text with
      | .ok url => .ok (some url)
      | .error _ => .error .brokenMarkup
    | .error _, _ => .error .brokenMarkup

def of (outer : Option Url) (name : Name) (attributes : List (String × String))
    (children : List Node) : Except Fault Element := do
  let base ← baseOf outer attributes
  return ⟨Vocabulary.ofSpace name.space, name.localName, attributes, base, children⟩

/-- The text an element begins with, unless it is empty. -/
def text? (e : Element) : Option String :=
  (Markup.leadingText? e.children).filter fun text => !text.isEmpty

/-- All that stands in an element, written out. -/
def markup? (e : Element) : Option String := Markup.innerMarkup? e.children

def markup (e : Element) : Except Fault String :=
  match e.markup? with
  | some text => .ok text
  | none => .error .brokenMarkup

/-- The content of a plain title, absent where it is faulty. -/
def title? (e : Element) : Option String := e.markup?.map Text.trim

def date? (e : Element) : Option Instant := e.text?.bind MailDate.readFeedDate

/-- The address of a link, relative to a base where it can be read so. -/
def address (e : Element) (link : String) : String :=
  match Url.parse link with
  | .ok url => url.text
  | .error .relativeWithoutBase =>
    match e.base with
    | none => link
    | some base =>
      match Url.resolve base link with
      | .ok url => url.text
      | .error _ => link
  | .error _ => link

/-- Whether the faults in an element stop the walk over its siblings: more of them than are overlooked
there. Without a number, the element has been dealt with already. -/
private def stops (overlooked : Element → Option Nat) (e : Element) : Bool :=
  match overlooked e with
  | some n => n < Node.countFaults e.children
  | none => false

/-- Walks over child elements in order, unless a fault comes between. -/
def walk (base : Option Url) (overlooked : Element → Option Nat)
    (visit : σ → Element → Except Fault σ) (state : σ) : List Node → Except Fault σ
  | [] => .ok state
  | .fault :: _ => .error .brokenMarkup
  | .text _ :: rest => walk base overlooked visit state rest
  | .element name attributes children :: rest => do
    let e ← Element.of base name attributes children
    let state ← visit state e
    if stops overlooked e then .error .brokenMarkup
    else walk base overlooked visit state rest

/-- No fault is overlooked. -/
def strictly (_ : Element) : Option Nat := some 0

/-- Walks over an element's children. -/
def fold (e : Element) (overlooked : Element → Option Nat) (visit : σ → Element → Except Fault σ)
    (state : σ) : Except Fault σ :=
  walk e.base overlooked visit state e.children

/-- The media text of an element, which is plain or HTML. -/
private def mediaText (e : Element) : Except Fault String := do
  let kind := (e.attribute? "type").getD "plain"
  if kind == "plain" || kind == "html" then return Text.trim (← e.markup)
  else throw (.contentType kind)

/-- Reads one element of media. Media content may hold further elements. -/
def mediaDescription (fuel : Nat) (description : Option String) (e : Element) :
    Except Fault (Option String) :=
  match fuel, e.vocabulary, e.name with
  | _, .media, "description" => some <$> mediaText e
  | _, .media, "title" => do
    let _ ← mediaText e
    return description
  | fuel + 1, .media, "content" => e.fold strictly (mediaDescription fuel) description
  | _, _, _ => .ok description

/-- The description in a group of media. -/
def groupDescription (e : Element) : Except Fault (Option String) :=
  e.fold strictly (mediaDescription 16) none

/-- Adds what an element of media says to an entry. -/
def addMedia (draft : Draft) (e : Element) : Except Fault Draft := do
  if e.name == "group" then
    let description ← groupDescription e
    return { draft with groupDescriptions := draft.groupDescriptions ++ description.toList }
  else return { draft with mediaDescription := ← mediaDescription 16 draft.mediaDescription e }

end Element

end Harvest.Feed
