import Harvest.Html.Elements
import Harvest.Html.Node

/-!
The nodes of a document while it is being read. Nodes are numbered, know their parent, and list
their children; text next to text joins it.
-/

namespace Harvest.Html

abbrev NodeId := Nat

inductive Content where
  | root
  | text (chars : List Char)
  | comment
  | element (label : Label) (attributes : List (String × String))

structure Entry where
  content : Content
  parent : Option NodeId
  children : List NodeId

/-- All nodes by number; the document itself is number zero. -/
structure NodeStore where
  entries : Array Entry

namespace NodeStore

def empty : NodeStore := ⟨#[⟨.root, none, []⟩]⟩

def get? (s : NodeStore) (id : NodeId) : Option Entry := s.entries[id]?

def label? (s : NodeStore) (id : NodeId) : Option Label :=
  match s.get? id with
  | some ⟨.element label _, _, _⟩ => some label
  | _ => none

def parent? (s : NodeStore) (id : NodeId) : Option NodeId := (s.get? id).bind (·.parent)

private def change (s : NodeStore) (id : NodeId) (f : Entry → Entry) : NodeStore :=
  ⟨s.entries.modify id f⟩

/-- A new node without a parent. -/
def create (s : NodeStore) (content : Content) : NodeId × NodeStore :=
  (s.entries.size, ⟨s.entries.push ⟨content, none, []⟩⟩)

def detach (s : NodeStore) (id : NodeId) : NodeStore :=
  match s.parent? id with
  | none => s
  | some parent =>
    (s.change parent fun e => { e with children := e.children.filter (· != id) }).change id
      fun e => { e with parent := none }

/-- Makes a node the last child of another. -/
def append (s : NodeStore) (parent id : NodeId) : NodeStore :=
  ((s.detach id).change parent fun e => { e with children := e.children ++ [id] }).change id
    fun e => { e with parent := some parent }

private def isText (s : NodeStore) (id : NodeId) : Bool :=
  match s.get? id with
  | some ⟨.text _, _, _⟩ => true
  | _ => false

private def extend (s : NodeStore) (id : NodeId) (chars : List Char) : NodeStore :=
  s.change id fun e =>
    match e.content with
    | .text old => { e with content := .text (old ++ chars) }
    | _ => e

/-- Adds text at the end of an element. -/
def appendText (s : NodeStore) (parent : NodeId) (chars : List Char) : NodeStore :=
  match (s.get? parent).bind (·.children.getLast?) with
  | some last =>
    if s.isText last then s.extend last chars
    else
      let (id, s) := s.create (.text chars)
      s.append parent id
  | none =>
    let (id, s) := s.create (.text chars)
    s.append parent id

private def insertInto (sibling id : NodeId) : List NodeId → List NodeId
  | [] => [id]
  | c :: rest => if c == sibling then id :: c :: rest else c :: insertInto sibling id rest

/-- Puts a node before another one that has a parent. -/
def insertBefore (s : NodeStore) (sibling id : NodeId) : NodeStore :=
  let s := s.detach id
  match s.parent? sibling with
  | none => s
  | some parent =>
    (s.change parent fun e => { e with children := insertInto sibling id e.children }).change id
      fun e => { e with parent := some parent }

/-- Puts text before a node that has a parent. -/
def insertTextBefore (s : NodeStore) (sibling : NodeId) (chars : List Char) : NodeStore :=
  match s.parent? sibling with
  | none => s
  | some parent =>
    let earlier := (((s.get? parent).map (·.children)).getD []).takeWhile (· != sibling)
    match earlier.getLast? with
    | some last =>
      if s.isText last then s.extend last chars
      else
        let (id, s) := s.create (.text chars)
        s.insertBefore sibling id
    | none =>
      let (id, s) := s.create (.text chars)
      s.insertBefore sibling id

/-- Moves all children of a node behind those of another. -/
def moveChildren (s : NodeStore) (source target : NodeId) : NodeStore :=
  (((s.get? source).map (·.children)).getD []).foldl (fun s id => s.append target id) s

/-- The tree below a node, at most `depth` levels of it. -/
def toNode (s : NodeStore) : (depth : Nat) → NodeId → Node
  | 0, _ => .comment
  | depth + 1, id =>
    match s.get? id with
    | some ⟨.text chars, _, _⟩ => .text (String.ofList chars)
    | some ⟨.element label attributes, _, children⟩ =>
      let below := children.map (s.toNode depth)
      .element id label.name attributes (if label == .html "template" then [.fragment below] else below)
    | _ => .comment

/-- The trees below a node. -/
def childNodes (s : NodeStore) (id : NodeId) : List Node :=
  (((s.get? id).map (·.children)).getD []).map (s.toNode s.entries.size)

/-- The trees below elements that were taken out of the document. -/
def looseNodes (s : NodeStore) : List Node :=
  (List.range s.entries.size).flatMap fun id =>
    match s.get? id with
    | some ⟨.element _ _, none, _⟩ => s.childNodes id
    | _ => []

end NodeStore

end Harvest.Html
