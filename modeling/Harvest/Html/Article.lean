import Harvest.Html.Node
import Harvest.Text.Blank

/-!
The readable text of a tree, and of an article page. Text under scripts, navigation and other
furniture is left out; the words of all other text nodes are kept in document order.
-/

namespace Harvest.Html

/-- Elements whose text is never part of an article. -/
def furniture : List String :=
  ["script", "style", "noscript", "nav", "header", "footer", "aside", "form", "iframe", "svg",
    "template"]

mutual

/-- The text below a node, with a space behind each text node. What stands in a template is not below it. -/
def Node.gather : Node → List Char
  | .text content => content.toList ++ [' ']
  | .comment | .fragment _ => []
  | .element _ name _ children => if furniture.contains name then [] else gatherAll children

def gatherAll : List Node → List Char
  | [] => []
  | node :: rest => node.gather ++ gatherAll rest

end

/-- The words below an element, with single spaces between them. -/
def containerText (element : Node) : String :=
  String.ofList (Text.joinWords (Text.words (gatherAll element.children)))

/-- The text of an element, if it has any words. -/
def readableText? (element : Node) : Option String :=
  let text := containerText element
  if text.isEmpty then none else some text

/-- The kinds of elements that hold an article, the best first. -/
def containers : List (Node → Bool) :=
  [Node.hasName "article", Node.hasName "main", Node.hasAttribute "role" "main",
    Node.hasName "body"]

/-- The text of the first element with words, by kind and then in the order in which they were opened. -/
def articleText? (document : List Node) : Option String :=
  containers.findSome? fun isContainer =>
    (Node.openedOf document).findSome? fun e =>
      if isContainer e then readableText? e else none

end Harvest.Html
