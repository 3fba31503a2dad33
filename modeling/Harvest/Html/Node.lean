/-!
Documents as trees: text, comments, and elements with attributes and children. What stands in a template is a
fragment of its own. Elements are numbered, the one that was opened first having the least number.
-/

namespace Harvest.Html

inductive Node where
  | text (content : String)
  | comment
  /-- What stands in a template. -/
  | fragment (children : List Node)
  | element (number : Nat) (name : String) (attributes : List (String × String)) (children : List Node)
  deriving Inhabited

namespace Node

mutual

/-- The elements of a tree in document order. -/
def elements : Node → List Node
  | text _ | comment => []
  | fragment children => elementsOf children
  | element number name attributes children =>
    element number name attributes children :: elementsOf children

def elementsOf : List Node → List Node
  | [] => []
  | node :: rest => elements node ++ elementsOf rest

end

def number : Node → Nat
  | element number _ _ _ => number
  | _ => 0

def children : Node → List Node
  | element _ _ _ children => children
  | _ => []

/-- Puts an element before all that were opened later. -/
def insertOpened (element : Node) : List Node → List Node
  | [] => [element]
  | other :: rest =>
    if element.number ≤ other.number then element :: other :: rest
    else other :: insertOpened element rest

/-- The elements of trees in the order in which they were opened. In a document, what was opened in a table but
cannot stand there comes before the table, and so before elements that were opened earlier. -/
def openedOf (nodes : List Node) : List Node := (elementsOf nodes).foldr insertOpened []

def hasName (name : String) : Node → Bool
  | element _ n _ _ => n == name
  | _ => false

/-- Whether the element has an attribute with exactly this value. -/
def hasAttribute (name value : String) : Node → Bool
  | element _ _ attributes _ => (attributes.find? fun a => a.1 == name).map (·.2) == some value
  | _ => false

end Node

end Harvest.Html
