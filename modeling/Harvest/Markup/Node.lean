import Harvest.Markup.Event

/-!
Documents as trees. Tags that do not match leave a fault in the element they close, and elements
left open at the end of the document end with a fault.
-/

namespace Harvest.Markup

/-- A local name and its namespace. Names without one, and names whose label has an undeclared
namespace, are plain. -/
structure Name where
  space : Option String
  localName : String
  deriving DecidableEq

inductive Node where
  | element (name : Name) (attributes : List (String × String)) (children : List Node)
  | text (content : String)
  | fault

/-- An element whose end has not been met; its children are kept latest first. -/
private structure Frame where
  label : String
  name : Name
  attributes : List (String × String)
  bindings : List (String × String)
  done : List Node

private def splitLabel (label : String) : String × String :=
  match label.toList.span (· != ':') with
  | (space, _ :: rest) => (String.ofList space, String.ofList rest)
  | (_, []) => ("", label)

private def nameOf (bindings : List (String × String)) (label : String) : Name :=
  let (space, localName) := splitLabel label
  match bindings.find? fun b => b.1 == space with
  | some (_, uri) => ⟨if uri.isEmpty then none else some uri, localName⟩
  | none => ⟨none, localName⟩

private def addText (content : List Char) : List Node → List Node
  | .text before :: done => .text (before ++ String.ofList content) :: done
  | done => .text (String.ofList content) :: done

/-- Closes the innermost of the open elements. -/
private def close (faulty : Bool) (frame : Frame) : List Frame → List Frame
  | [] => []
  | outer :: rest =>
    let children := if faulty then .fault :: frame.done else frame.done
    { outer with done := .element frame.name frame.attributes children.reverse :: outer.done } ::
      rest

/-- Adds an event to the open elements, the innermost first and the document itself last. -/
private def step (open_ : List Frame) (event : Event) : List Frame :=
  match open_ with
  | [] => []
  | frame :: rest =>
    match event with
    | .text content => { frame with done := addText content frame.done } :: rest
    | .fault => { frame with done := .fault :: frame.done } :: rest
    | .start tag =>
      let bindings := tag.bindings ++ frame.bindings
      ⟨tag.label, nameOf bindings tag.label, tag.attributes, bindings, []⟩ :: frame :: rest
    | .finish label =>
      match rest with
      | [] => { frame with done := .fault :: frame.done } :: rest
      | _ => close (label != frame.label) frame rest

private def closeAll : List Frame → List Node
  | [] => []
  | [document] => document.done.reverse
  | frame :: outer :: rest =>
    closeAll ({ outer with
      done := .element frame.name frame.attributes (.fault :: frame.done).reverse :: outer.done } ::
        rest)
termination_by open_ => open_.length

/-- The nodes of a document, with its comments and declarations left out. -/
def parse (document : List UInt8) : List Node :=
  closeAll ((events document).foldl step [⟨"", ⟨none, ""⟩, [], [], []⟩])

namespace Node

mutual

/-- The number of faults in a node. -/
def faults : Node → Nat
  | .element _ _ children => countFaults children
  | .text _ => 0
  | .fault => 1

def countFaults : List Node → Nat
  | [] => 0
  | node :: rest => node.faults + countFaults rest

end

private def attributeMarkup (pair : String × String) : String :=
  " " ++ pair.1 ++ "=\"" ++ pair.2 ++ "\""

mutual

/-- A node written out, with its references resolved. -/
def markup : Node → String
  | .element name attributes children =>
    "<" ++ name.localName ++ String.join (attributes.map attributeMarkup) ++ ">" ++
      allMarkup children ++ "</" ++ name.localName ++ ">"
  | .text content => content
  | .fault => ""

def allMarkup : List Node → String
  | [] => ""
  | node :: rest => node.markup ++ allMarkup rest

end

end Node

/-- The nodes written out, unless a fault lies in them. -/
def innerMarkup? (children : List Node) : Option String :=
  if Node.countFaults children = 0 then some (Node.allMarkup children) else none

/-- The text that children begin with. -/
def leadingText? : List Node → Option String
  | .text content :: _ => some content
  | _ => none

def attribute? (attributes : List (String × String)) (name : String) : Option String :=
  (attributes.find? fun a => a.1 == name).map Prod.snd

end Harvest.Markup
