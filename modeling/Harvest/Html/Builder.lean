import Harvest.Html.Store

/-!
The state of a reader of HTML: the nodes so far, the elements that are open, the formatting to be
taken up again, and where in a document the reader is.
-/

namespace Harvest.Html

/-- Where in a document the reader is. -/
inductive Place where
  | initial
  | beforeHtml
  | beforeHead
  | inHead
  | afterHead
  | inBody
  | inText
  | inTable
  | inTableText
  | inCaption
  | inColumnGroup
  | inTableBody
  | inRow
  | inCell
  | inSelect
  | inSelectInTable
  | inTemplate
  | afterBody
  | inFrameset
  | afterFrameset
  | afterAfterBody
  | afterAfterFrameset
  deriving DecidableEq

/-- Formatting to be taken up again: an element with its tag, or a border. -/
inductive Format where
  | border
  | element (id : NodeId) (tag : Tag)

structure Builder where
  store : NodeStore
  place : Place
  returnPlace : Place
  templatePlaces : List Place
  tableText : List Char
  oldLayout : Bool
  /-- The innermost open element is the first. -/
  opened : List NodeId
  /-- The latest format is the first. -/
  formats : List Format
  head : Option NodeId
  form : Option NodeId
  framesetAllowed : Bool
  skipLineFeed : Bool
  fostering : Bool
  isFragment : Bool

/-- What the reader does after a piece: goes on, looks at a piece again, or reads text. -/
inductive Next where
  | done
  | again (token : Token)
  | byPlace (token : Token)
  | text (mode : ReadMode)

abbrev Build := StateM Builder

namespace Builder

def current? (b : Builder) : Option NodeId := b.opened.head?

def label (b : Builder) (id : NodeId) : Label := (b.store.label? id).getD ⟨.html, ""⟩

def currentLabel (b : Builder) : Label := (b.current?.map b.label).getD ⟨.html, ""⟩

/-- The outermost open element, which all others are in. -/
def root (b : Builder) : NodeId := b.opened.getLast?.getD 0

def isOpen (b : Builder) (name : String) : Bool :=
  b.opened.any fun id => b.label id == .html name

/-- Looks from the innermost element outward for one that fits, up to the first of a scope. -/
def inScopeWith (b : Builder) (scope : Label → Bool) (fits : NodeId → Bool) : Bool :=
  search b.opened
where
  search : List NodeId → Bool
    | [] => false
    | id :: rest => fits id || (!scope (b.label id) && search rest)

def inScope (b : Builder) (scope : Label → Bool) (name : String) : Bool :=
  b.inScopeWith scope fun id => b.label id == .html name

def body? (b : Builder) : Option NodeId :=
  match b.opened.reverse with
  | _ :: id :: _ => if b.label id == .html "body" then some id else none
  | _ => none

/-- The place that fits the open elements. -/
def placeOfOpened (b : Builder) : Place :=
  search b.opened
where
  inTable : List NodeId → Bool
    | [] => false
    | id :: rest =>
      if b.label id == .html "template" then false
      else b.label id == .html "table" || inTable rest
  search : List NodeId → Place
    | [] => .inBody
    | id :: rest =>
      let isLast := rest.isEmpty
      let label := if isLast && b.isFragment then .html "body" else b.label id
      if label.ns != .html then search rest
      else match label.name with
        | "select" => if inTable rest then .inSelectInTable else .inSelect
        | "td" | "th" => if isLast then search rest else .inCell
        | "tr" => .inRow
        | "tbody" | "thead" | "tfoot" => .inTableBody
        | "caption" => .inCaption
        | "colgroup" => .inColumnGroup
        | "table" => .inTable
        | "template" => b.templatePlaces.head?.getD .inBody
        | "head" => if isLast then search rest else .inHead
        | "body" => .inBody
        | "frameset" => .inFrameset
        | "html" => if b.head.isNone then .beforeHead else .afterHead
        | _ => search rest

/-- Where a new node goes. -/
inductive Spot where
  | lastIn (parent : NodeId)
  | nearTable (table before : NodeId)

/-- Where a node for `target` goes. What cannot stand in a table goes in front of it. -/
def spot (b : Builder) (target : NodeId) : Spot :=
  if b.fostering && (b.label target).isOneOf ["table", "tbody", "tfoot", "thead", "tr"] then
    search b.opened
  else .lastIn target
where
  search : List NodeId → Spot
    | [] => .lastIn b.root
    | id :: rest =>
      if b.label id == .html "template" then .lastIn id
      else if b.label id == .html "table" then .nearTable id (rest.head?.getD 0)
      else search rest

end Builder

namespace Build

open Builder

def setPlace (place : Place) : Build Unit := modify fun b => { b with place }

def create (content : Content) : Build NodeId :=
  modifyGet fun b =>
    let (id, store) := b.store.create content
    (id, { b with store })

/-- Puts a node where nodes for `target` go. -/
def insertFor (target id : NodeId) : Build Unit :=
  modify fun b =>
    { b with
      store := match b.spot target with
        | .lastIn parent => b.store.append parent id
        | .nearTable table before =>
          if (b.store.parent? table).isSome then b.store.insertBefore table id
          else b.store.append before id }

def insert (id : NodeId) : Build Unit := do
  insertFor ((← get).current?.getD 0) id

def appendText (chars : List Char) : Build Unit :=
  modify fun b =>
    { b with
      store := match b.spot (b.current?.getD 0) with
        | .lastIn parent => b.store.appendText parent chars
        | .nearTable table before =>
          if (b.store.parent? table).isSome then b.store.insertTextBefore table chars
          else b.store.appendText before chars }

def appendComment : Build Unit := do insert (← create .comment)

def appendCommentTo (parent : NodeId) : Build Unit := do
  let id ← create .comment
  modify fun b => { b with store := b.store.append parent id }

def push (id : NodeId) : Build Unit := modify fun b => { b with opened := id :: b.opened }

def pop : Build Unit := modify fun b => { b with opened := b.opened.drop 1 }

def insertLabelled (label : Label) (attributes : List (String × String)) : Build NodeId := do
  let id ← create (.element label attributes)
  insert id
  return id

/-- A new open element for a tag. -/
def openTag (tag : Tag) : Build NodeId := do
  let id ← insertLabelled (.html tag.name) tag.attributes
  push id
  return id

/-- A new element that is closed at once. -/
def addTag (tag : Tag) : Build NodeId := insertLabelled (.html tag.name) tag.attributes

/-- A new open element that no tag wrote. -/
def openNamed (name : String) : Build NodeId := openTag ⟨name, [], false⟩

/-- Closes elements while the innermost fits. -/
def popWhile (fits : Label → Bool) : Build Unit :=
  modify fun b => { b with opened := b.opened.dropWhile fun id => fits (b.label id) }

/-- Closes elements up to and with the first that fits. -/
def popThrough (fits : Label → Bool) : Build Unit :=
  modify fun b => { b with opened := (b.opened.dropWhile fun id => !fits (b.label id)).drop 1 }

def popNamed (name : String) : Build Unit := popThrough (· == .html name)

/-- Closes elements until the innermost fits. -/
def popTo (fits : Label → Bool) : Build Unit := popWhile (!fits ·)

def closeImplied : Build Unit := popWhile Label.hasImpliedEnd

def closeImpliedExcept (name : String) : Build Unit :=
  popWhile fun l => l != .html name && l.hasImpliedEnd

def closeParagraph : Build Unit := do
  closeImpliedExcept "p"
  popNamed "p"

def closeParagraphInScope : Build Unit := do
  if (← get).inScope Label.isButtonScope "p" then closeParagraph

def removeOpened (id : NodeId) : Build Unit :=
  modify fun b => { b with opened := b.opened.filter (· != id) }

def forbidFrameset : Build Unit := modify fun b => { b with framesetAllowed := false }

def pushBorder : Build Unit := modify fun b => { b with formats := .border :: b.formats }

/-- Forgets formats up to the latest border. -/
def clearFormats : Build Unit :=
  modify fun b =>
    let isElement : Format → Bool
      | .element .. => true
      | .border => false
    { b with formats := (b.formats.dropWhile isElement).drop 1 }

private def isFormatOf (id : NodeId) : Format → Bool
  | .element other _ => other == id
  | .border => false

def removeFormat (id : NodeId) : Build Unit :=
  modify fun b => { b with formats := b.formats.filter (!isFormatOf id ·) }

private def replaceFormat (id : NodeId) (format : Format) : Build Unit :=
  modify fun b =>
    { b with formats := b.formats.map fun f => if isFormatOf id f then format else f }

/-- Formats since the latest border, the latest first. -/
def recentFormats (b : Builder) : List (NodeId × Tag) := collect b.formats
where
  collect : List Format → List (NodeId × Tag)
    | .element id tag :: rest => (id, tag) :: collect rest
    | _ => []

/-- Takes up formatting whose elements have been closed. -/
def reconstructFormats : Build Unit := do
  let b ← get
  let closed := (recentFormats b).takeWhile fun f => !b.opened.contains f.1
  for (id, tag) in closed.reverse do
    let new ← openTag tag
    replaceFormat id (.element new tag)

private def sameTag (a b : Tag) : Bool :=
  a.name == b.name && a.attributes.length == b.attributes.length &&
    a.attributes.all (b.attributes.contains ·)

/-- A new open element whose formatting is taken up again; at most three alike are kept. -/
def openFormat (tag : Tag) : Build Unit := do
  let alike := (recentFormats (← get)).filter fun f => sameTag f.2 tag
  match alike.getLast? with
  | some (id, _) => if 3 ≤ alike.length then removeFormat id
  | none => pure ()
  let id ← openTag tag
  modify fun b => { b with formats := .element id tag :: b.formats }

/-- Closes the element that an end tag names, if no special element stands in between. -/
def closeNamed (name : String) : Build Unit := do
  let b ← get
  match b.opened.find? fun id => b.label id == .html name || (b.label id).isSpecial with
  | none => pure ()
  | some id =>
    if b.label id == .html name then
      closeImpliedExcept name
      modify fun b => { b with opened := (b.opened.dropWhile (· != id)).drop 1 }

/-- Where the format of a moved element goes in the list. -/
private inductive Bookmark where
  | replace (id : NodeId)
  | after (id : NodeId)

/-- Climbs from the furthest block to the formatting element, copying the formats between them.
`inner` lists the open elements between them, the innermost first. -/
private def climb (furthest : NodeId) (last : NodeId) (bookmark : Bookmark) (count : Nat) :
    List NodeId → Build (NodeId × Bookmark)
  | [] => return (last, bookmark)
  | node :: rest => do
    let b ← get
    match (b.formats.findSome? fun
        | .element id tag => if id == node then some tag else none
        | .border => none) with
    | none =>
      removeOpened node
      climb furthest last bookmark (count + 1) rest
    | some tag =>
      if 3 < count then
        removeFormat node
        removeOpened node
        climb furthest last bookmark (count + 1) rest
      else
        let new ← create (.element (.html tag.name) tag.attributes)
        modify fun b =>
          { b with opened := b.opened.map fun id => if id == node then new else id }
        replaceFormat node (.element new tag)
        let bookmark := if last == furthest then .after new else bookmark
        modify fun b => { b with store := b.store.append new last }
        climb furthest new bookmark (count + 1) rest

private def insertFormatAfter (id : NodeId) (format : Format) : List Format → List Format
  | [] => [format]
  | f :: rest => if isFormatOf id f then format :: f :: rest
      else f :: insertFormatAfter id format rest

/-- Puts a formatting element under the furthest block inside it. -/
private def adopt (element : NodeId) (tag : Tag) (furthest : NodeId) : Build Unit := do
  let b ← get
  let ancestor := ((b.opened.dropWhile (· != element)).drop 1).head?.getD 0
  let inner := ((b.opened.dropWhile (· != furthest)).drop 1).takeWhile (· != element)
  let (last, bookmark) ← climb furthest furthest (.replace element) 1 inner
  modify fun b => { b with store := b.store.detach last }
  insertFor ancestor last
  let new ← create (.element (.html tag.name) tag.attributes)
  modify fun b => { b with store := (b.store.moveChildren furthest new).append furthest new }
  match bookmark with
  | .replace id => replaceFormat id (.element new tag)
  | .after id =>
    removeFormat element
    modify fun b => { b with formats := insertFormatAfter id (.element new tag) b.formats }
  removeOpened element
  modify fun b =>
    { b with opened := b.opened.flatMap fun id => if id == furthest then [new, id] else [id] }

/-- Closes a formatting element whose end tag may come too early or too late. -/
def closeFormat (name : String) : Build Unit := do
  let b ← get
  match b.current? with
  | some id =>
    if b.label id == .html name && !(b.formats.any (isFormatOf id)) then pop
    else rounds 8
  | none => pure ()
where
  rounds : (remaining : Nat) → Build Unit
    | 0 => pure ()
    | remaining + 1 => do
      let b ← get
      match (recentFormats b).find? fun f => f.2.name == name with
      | none => closeNamed name
      | some (element, tag) =>
        if !b.opened.contains element then removeFormat element
        else if !b.inScopeWith Label.isScope (· == element) then pure ()
        else
          let inside := (b.opened.takeWhile (· != element)).reverse
          match inside.find? fun id => (b.label id).isSpecial with
          | none =>
            modify fun b => { b with opened := (b.opened.dropWhile (· != element)).drop 1 }
            removeFormat element
          | some furthest =>
            adopt element tag furthest
            rounds remaining

/-- Closes a link that is still open when another one starts. -/
def closeOpenLink : Build Unit := do
  match (recentFormats (← get)).find? fun f => f.2.name == "a" with
  | none => pure ()
  | some (id, _) =>
    closeFormat "a"
    removeFormat id
    removeOpened id

private def withMissing (attributes : List (String × String)) (e : Entry) : Entry :=
  match e.content with
  | .element label old =>
    let new := attributes.filter fun a => !old.any fun o => o.1 == a.1
    { e with content := .element label (old ++ new) }
  | _ => e

/-- Gives an element those attributes that it lacks. -/
def addMissing (id : NodeId) (attributes : List (String × String)) : Build Unit :=
  modify fun b =>
    { b with store := ⟨b.store.entries.modify id (withMissing attributes)⟩ }

/-- Opens an element and reads its content as text. -/
def readTextOf (tag : Tag) (mode : ReadMode) : Build Next := do
  let _ ← openTag tag
  modify fun b => { b with returnPlace := b.place, place := .inText }
  return .text mode

end Build

end Harvest.Html
