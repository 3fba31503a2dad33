import Harvest.Html.Article
import Harvest.Html.Rules

/-!
Reading whole documents and fragments. Every text is a document of some kind; no text is refused.
-/

namespace Harvest.Html

/-- Deals with one piece, and says how to read the next. -/
private def takePiece (mode : ReadMode) (token : Token) : Build ReadMode := do
  let b ← get
  modify fun b => { b with skipLineFeed := false }
  let mode := match token with
    | .close _ => if mode == .plain then mode else .data
    | _ => mode
  match token with
  | .documentType d =>
    if b.place == .initial then
      modify fun b => { b with oldLayout := d.isOld, place := .beforeHtml }
    return mode
  | .chars text =>
    let text := if b.skipLineFeed && text.head? == some '\n' then text.drop 1 else text
    if text.isEmpty then return mode
    else Rules.handle mode true (8 * b.opened.length + text.length + 64) (.chars text)
  | token => Rules.handle mode true (8 * b.opened.length + 64) token

private def readPieces (mode : ReadMode) : (fuel : Nat) → List Char → Build Unit
  | 0, _ => pure ()
  | fuel + 1, text => do
    let sections := (← get).currentLabel.ns != .html
    let (token, rest) := Token.next mode sections text
    let mode ← takePiece mode token
    match token with
    | .finish => pure ()
    | _ => readPieces mode fuel rest

private def start (isFragment : Bool) : Builder :=
  { store := .empty, place := .initial, returnPlace := .inBody, templatePlaces := [],
    tableText := [], oldLayout := false, opened := [], formats := [], head := none, form := none,
    framesetAllowed := true, skipLineFeed := false, fostering := false, isFragment }

private def run (b : Builder) (text : String) : NodeStore :=
  let input := Token.cleanInput text.toList
  ((readPieces .data (input.length + 2) input).run b).2.store

/-- The trees of a document, and those below a body that gave way to a frameset, as they can still be found. -/
def parseDocument (text : String) : List Node :=
  let store := run (start false) text
  store.childNodes 0 ++ store.looseNodes

/-- The element around the nodes of a fragment, which stands inside a body. -/
def parseFragment (text : String) : Node :=
  let b := start true
  let (root, store) := b.store.create (.element (.html "html") [])
  let b := { b with store := store.append 0 root, opened := [root], place := .inBody }
  .element root "html" [] ((run b text).childNodes root)

/-- The text of an article page, if it has any. -/
def extract (page : String) : Option String := articleText? (parseDocument page)

/-- The words of a piece of HTML, if it has any. -/
def toText (fragment : String) : Option String := readableText? (parseFragment fragment)

end Harvest.Html
