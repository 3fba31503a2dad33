import Harvest.Html.Builder

/-!
What the reader does with a piece, for each place in a document.
-/

namespace Harvest.Html.Rules

open Build

private def isSpaceRun (text : List Char) : Bool := text.all Token.isSpace

/-- A run is taken apart where blanks begin or end. -/
def firstRun (text : List Char) : List Char × List Char :=
  match text with
  | [] => ([], [])
  | c :: _ =>
    let same (d : Char) : Bool := Token.isSpace d == Token.isSpace c
    (text.takeWhile same, text.dropWhile same)

private def hiddenInput (tag : Tag) : Bool :=
  tag.attributes.any fun a => a.1 == "type" && Text.lowerAsciiText a.2 == "hidden"

/-- A second start tag of the outermost element only adds attributes. -/
private def repeatRoot (tag : Tag) : Build Next := do
  let b ← get
  if !b.isOpen "template" then addMissing b.root tag.attributes
  return .done

private def closeTemplate : Build Unit := do
  if (← get).isOpen "template" then
    popWhile Label.hasImpliedEndInTemplate
    popNamed "template"
    clearFormats
    modify fun b => { b with templatePlaces := b.templatePlaces.drop 1 }
    modify fun b => { b with place := b.placeOfOpened }

private def openTemplate (tag : Tag) : Build Unit := do
  let _ ← openTag tag
  pushBorder
  forbidFrameset
  modify fun b => { b with place := .inTemplate, templatePlaces := .inTemplate :: b.templatePlaces }

/-- Tags that are handled in the same way wherever they stand. -/
def isHeadTag (name : String) : Bool :=
  ["base", "basefont", "bgsound", "link", "meta", "noframes", "script", "style", "template",
    "title"].contains name

/-- The rules for such a start tag. -/
def headTag (tag : Tag) : Build Next := do
  match tag.name with
  | "title" => readTextOf tag (.escapable "title")
  | "noframes" | "style" | "noscript" => readTextOf tag (.raw tag.name)
  | "script" => readTextOf tag .script
  | "template" =>
    openTemplate tag
    return .done
  | _ =>
    let _ ← addTag tag
    return .done

private def finishTemplates (token : Token) : Build Next := do
  if (← get).isOpen "template" then
    popNamed "template"
    clearFormats
    modify fun b => { b with templatePlaces := b.templatePlaces.drop 1 }
    modify fun b => { b with place := b.placeOfOpened }
    return .again token
  else return .done

/-- An element of another language: a drawing or a formula. -/
private def openForeign (ns : Namespace) (tag : Tag) : Build Next := do
  let name :=
    if ns == .svg && tag.name == "foreignobject" then "foreignObject" else tag.name
  let id ← insertLabelled ⟨ns, name⟩ tag.attributes
  if !tag.selfClosing then push id
  return .done

private def closeItem (tag : Tag) : Build Unit := do
  let b ← get
  let ends := if tag.name == "li" then ["li"] else ["dd", "dt"]
  let stops (l : Label) : Bool := l.isSpecial && !l.isOneOf ["address", "div", "p"]
  match b.opened.find? fun id => (b.label id).isOneOf ends || stops (b.label id) with
  | some id =>
    let label := b.label id
    if label.isOneOf ends then
      closeImpliedExcept label.name
      popNamed label.name
  | none => pure ()

/-- The rules for a start tag in the body. -/
def bodyStart (tag : Tag) : Build Next := do
  let b ← get
  let name := tag.name
  if name == "html" then repeatRoot tag
  else if isHeadTag name then headTag tag
  else if blocks.contains name then
    closeParagraphInScope
    let _ ← openTag tag
    return .done
  else if Label.headings.contains name then
    closeParagraphInScope
    if (← get).currentLabel.isHeading then pop
    let _ ← openTag tag
    return .done
  else if name == "a" then
    closeOpenLink
    reconstructFormats
    openFormat tag
    return .done
  else if name == "nobr" then
    reconstructFormats
    if (← get).inScope Label.isScope "nobr" then
      closeFormat "nobr"
      reconstructFormats
    openFormat tag
    return .done
  else if formatting.contains name then
    reconstructFormats
    openFormat tag
    return .done
  else match name with
    | "body" =>
      match b.body? with
      | some body =>
        if !b.isOpen "template" then
          forbidFrameset
          addMissing body tag.attributes
      | none => pure ()
      return .done
    | "frameset" =>
      match b.body? with
      | some body =>
        if b.framesetAllowed then
          modify fun b =>
            { b with store := b.store.detach body, opened := [b.root], place := .inFrameset }
          let _ ← openTag tag
      | none => pure ()
      return .done
    | "pre" | "listing" =>
      closeParagraphInScope
      let _ ← openTag tag
      modify fun b => { b with skipLineFeed := true, framesetAllowed := false }
      return .done
    | "form" =>
      if b.form.isNone || b.isOpen "template" then
        closeParagraphInScope
        let id ← openTag tag
        if !b.isOpen "template" then modify fun b => { b with form := some id }
      return .done
    | "li" | "dd" | "dt" =>
      forbidFrameset
      closeItem tag
      closeParagraphInScope
      let _ ← openTag tag
      return .done
    | "plaintext" =>
      closeParagraphInScope
      let _ ← openTag tag
      return .text .plain
    | "button" =>
      if b.inScope Label.isScope "button" then
        closeImplied
        popNamed "button"
      reconstructFormats
      let _ ← openTag tag
      forbidFrameset
      return .done
    | "applet" | "marquee" | "object" =>
      reconstructFormats
      let _ ← openTag tag
      pushBorder
      forbidFrameset
      return .done
    | "table" =>
      if !b.oldLayout then closeParagraphInScope
      let _ ← openTag tag
      modify fun b => { b with framesetAllowed := false, place := .inTable }
      return .done
    | "area" | "br" | "embed" | "img" | "keygen" | "wbr" | "input" =>
      reconstructFormats
      let _ ← addTag tag
      if !(name == "input" && hiddenInput tag) then forbidFrameset
      return .done
    | "image" =>
      reconstructFormats
      let _ ← addTag { tag with name := "img" }
      forbidFrameset
      return .done
    | "param" | "source" | "track" =>
      let _ ← addTag tag
      return .done
    | "hr" =>
      closeParagraphInScope
      let _ ← addTag tag
      forbidFrameset
      return .done
    | "textarea" =>
      modify fun b => { b with skipLineFeed := true, framesetAllowed := false }
      readTextOf tag (.escapable "textarea")
    | "xmp" =>
      closeParagraphInScope
      reconstructFormats
      forbidFrameset
      readTextOf tag (.raw "xmp")
    | "iframe" =>
      forbidFrameset
      readTextOf tag (.raw "iframe")
    | "noembed" | "noscript" => readTextOf tag (.raw name)
    | "select" =>
      reconstructFormats
      let _ ← openTag tag
      forbidFrameset
      let inTable :=
        [Place.inTable, .inCaption, .inTableBody, .inRow, .inCell].contains b.place
      setPlace (if inTable then .inSelectInTable else .inSelect)
      return .done
    | "optgroup" | "option" =>
      if b.currentLabel == .html "option" then pop
      reconstructFormats
      let _ ← openTag tag
      return .done
    | "rb" | "rtc" =>
      if b.inScope Label.isScope "ruby" then closeImplied
      let _ ← openTag tag
      return .done
    | "rp" | "rt" =>
      if b.inScope Label.isScope "ruby" then closeImpliedExcept "rtc"
      let _ ← openTag tag
      return .done
    | "math" => openForeign .math tag
    | "svg" => openForeign .svg tag
    | "caption" | "col" | "colgroup" | "frame" | "head" | "tbody" | "td" | "tfoot" | "th"
    | "thead" | "tr" => return .done
    | _ =>
      reconstructFormats
      let _ ← openTag tag
      return .done

private def closeForm : Build Unit := do
  let b ← get
  if b.isOpen "template" then
    if b.inScope Label.isScope "form" then
      closeImplied
      popNamed "form"
  else
    match b.form with
    | none => pure ()
    | some form =>
      modify fun b => { b with form := none }
      if b.inScopeWith Label.isScope (· == form) then
        closeImplied
        removeOpened form

/-- The rules for an end tag in the body. -/
def bodyClose (tag : Tag) : Build Next := do
  let b ← get
  let name := tag.name
  if closableBlocks.contains name then
    if b.inScope Label.isScope name then
      closeImplied
      popNamed name
    return .done
  else if Label.headings.contains name then
    if b.inScopeWith Label.isScope fun id => (b.label id).isHeading then
      closeImplied
      popThrough Label.isHeading
    return .done
  else if formatting.contains name then
    closeFormat name
    return .done
  else match name with
    | "template" =>
      closeTemplate
      return .done
    | "body" =>
      if b.inScope Label.isScope "body" then setPlace .afterBody
      return .done
    | "html" =>
      if b.inScope Label.isScope "body" then
        setPlace .afterBody
        return .again (.close tag)
      else return .done
    | "form" =>
      closeForm
      return .done
    | "p" =>
      if !b.inScope Label.isButtonScope "p" then
        let _ ← openNamed "p"
      closeParagraph
      return .done
    | "li" | "dd" | "dt" =>
      let scope := if name == "li" then Label.isListScope else Label.isScope
      if b.inScope scope name then
        closeImpliedExcept name
        popNamed name
      return .done
    | "applet" | "marquee" | "object" =>
      if b.inScope Label.isScope name then
        closeImplied
        popNamed name
        clearFormats
      return .done
    | "br" => bodyStart { tag with attributes := [] }
    | _ =>
      closeNamed name
      return .done

/-- The rules of the body. -/
def inBody (token : Token) : Build Next := do
  match token with
  | .chars text =>
    reconstructFormats
    if !isSpaceRun text then forbidFrameset
    appendText text
    return .done
  | .comment =>
    appendComment
    return .done
  | .start tag => bodyStart tag
  | .close tag => bodyClose tag
  | .finish => if (← get).templatePlaces.isEmpty then return .done else finishTemplates token
  | .zero | .documentType _ => return .done

private def asRoot (token : Token) : Build Next := do
  match token with
  | .start tag => repeatRoot tag
  | _ => return .done

/-- Handles the first run of a text, then the rest of it. -/
private def byRuns (text : List Char) (space other : List Char → Build Next) : Build Next := do
  let (run, rest) := firstRun text
  let next ← if isSpaceRun run then space run else other run
  match next, rest with
  | .done, _ :: _ => return .again (.chars rest)
  | .again (.chars run), rest => return .again (.chars (run ++ rest))
  | next, _ => return next

private def ignore (_ : List Char) : Build Next := return .done

private def keepText (text : List Char) : Build Next := do
  appendText text
  return .done

/-- Leaves a place for another one, where the piece is looked at again. -/
private def moveTo (place : Place) (token : Token) : Build Next := do
  setPlace place
  return .again token

/-- End tags that count where most do not. -/
private def isClosingPage (name : String) : Bool := ["body", "html", "br"].contains name

private def initial (token : Token) : Build Next := do
  match token with
  | .comment =>
    appendCommentTo 0
    return .done
  | .chars text => byRuns text ignore fun run => leave (.chars run)
  | token => leave token
where
  leave (token : Token) : Build Next := do
    modify fun b => { b with oldLayout := true }
    moveTo .beforeHtml token

private def openRoot (attributes : List (String × String)) : Build Unit := do
  let id ← create (.element (.html "html") attributes)
  modify fun b => { b with store := b.store.append 0 id, opened := [id] }

private def beforeHtml (token : Token) : Build Next := do
  match token with
  | .comment =>
    appendCommentTo 0
    return .done
  | .chars text => byRuns text ignore fun run => leave (.chars run)
  | .start tag =>
    if tag.name == "html" then
      openRoot tag.attributes
      setPlace .beforeHead
      return .done
    else leave token
  | .close tag =>
    if tag.name == "head" || isClosingPage tag.name then leave token else return .done
  | token => leave token
where
  leave (token : Token) : Build Next := do
    openRoot []
    moveTo .beforeHead token

private def beforeHead (token : Token) : Build Next := do
  match token with
  | .comment =>
    appendComment
    return .done
  | .chars text => byRuns text ignore fun run => leave (.chars run)
  | .start tag =>
    if tag.name == "html" then asRoot token
    else if tag.name == "head" then
      let id ← openTag tag
      modify fun b => { b with head := some id, place := .inHead }
      return .done
    else leave token
  | .close tag =>
    if tag.name == "head" || isClosingPage tag.name then leave token else return .done
  | token => leave token
where
  leave (token : Token) : Build Next := do
    let id ← openNamed "head"
    modify fun b => { b with head := some id }
    moveTo .inHead token

private def inHead (token : Token) : Build Next := do
  match token with
  | .comment =>
    appendComment
    return .done
  | .chars text => byRuns text keepText fun run => leave (.chars run)
  | .start tag =>
    if tag.name == "html" then asRoot token
    else if isHeadTag tag.name || tag.name == "noscript" then headTag tag
    else if tag.name == "head" then return .done
    else leave token
  | .close tag =>
    if tag.name == "head" then
      pop
      setPlace .afterHead
      return .done
    else if tag.name == "template" then
      closeTemplate
      return .done
    else if isClosingPage tag.name then leave token
    else return .done
  | token => leave token
where
  leave (token : Token) : Build Next := do
    pop
    moveTo .afterHead token

private def afterHead (token : Token) : Build Next := do
  match token with
  | .comment =>
    appendComment
    return .done
  | .chars text => byRuns text keepText fun run => leave (.chars run)
  | .start tag =>
    if tag.name == "html" then asRoot token
    else if tag.name == "body" then
      let _ ← openTag tag
      modify fun b => { b with framesetAllowed := false, place := .inBody }
      return .done
    else if tag.name == "frameset" then
      let _ ← openTag tag
      setPlace .inFrameset
      return .done
    else if isHeadTag tag.name then
      match (← get).head with
      | none => return .done
      | some head =>
        push head
        let next ← headTag tag
        removeOpened head
        return next
    else if tag.name == "head" then return .done
    else leave token
  | .close tag =>
    if tag.name == "template" then
      closeTemplate
      return .done
    else if isClosingPage tag.name then leave token
    else return .done
  | token => leave token
where
  leave (token : Token) : Build Next := do
    let _ ← openNamed "body"
    moveTo .inBody token

private def inText (token : Token) : Build Next := do
  match token with
  | .chars text => keepText text
  | .close _ =>
    pop
    modify fun b => { b with place := b.returnPlace }
    return .done
  | .finish =>
    pop
    modify fun b => { b with place := b.returnPlace }
    return .again token
  | _ => return .done

/-- By the rules of the body, with new nodes in front of the table. -/
private def inFrontOfTable (token : Token) : Build Next := do
  modify fun b => { b with fostering := true }
  let next ← inBody token
  modify fun b => { b with fostering := false }
  return next

private def tableChars (token : Token) : Build Next := do
  if (← get).currentLabel.isOneOf ["table", "tbody", "tfoot", "thead", "tr"] then
    modify fun b => { b with returnPlace := b.place }
    moveTo .inTableText token
  else inFrontOfTable token

private def tableContext (l : Label) : Bool := l.isTableScope

private def tableBodyContext (l : Label) : Bool :=
  l.isOneOf ["tbody", "tfoot", "thead", "template", "html"]

private def rowContext (l : Label) : Bool := l.isOneOf ["tr", "template", "html"]

private def inTable (token : Token) : Build Next := do
  match token with
  | .chars _ | .zero => tableChars token
  | .comment =>
    appendComment
    return .done
  | .start tag =>
    match tag.name with
    | "caption" =>
      popTo tableContext
      pushBorder
      let _ ← openTag tag
      setPlace .inCaption
      return .done
    | "colgroup" =>
      popTo tableContext
      let _ ← openTag tag
      setPlace .inColumnGroup
      return .done
    | "col" =>
      popTo tableContext
      let _ ← openNamed "colgroup"
      moveTo .inColumnGroup token
    | "tbody" | "tfoot" | "thead" =>
      popTo tableContext
      let _ ← openTag tag
      setPlace .inTableBody
      return .done
    | "td" | "th" | "tr" =>
      popTo tableContext
      let _ ← openNamed "tbody"
      moveTo .inTableBody token
    | "table" =>
      if (← get).inScope Label.isTableScope "table" then
        popNamed "table"
        moveTo (← get).placeOfOpened token
      else return .done
    | "style" | "script" | "template" => headTag tag
    | "input" =>
      if hiddenInput tag then
        let _ ← addTag tag
        return .done
      else inFrontOfTable token
    | "form" =>
      let b ← get
      if !b.isOpen "template" && b.form.isNone then
        let id ← addTag tag
        modify fun b => { b with form := some id }
      return .done
    | _ => inFrontOfTable token
  | .close tag =>
    match tag.name with
    | "table" =>
      if (← get).inScope Label.isTableScope "table" then
        popNamed "table"
        modify fun b => { b with place := b.placeOfOpened }
      return .done
    | "body" | "caption" | "col" | "colgroup" | "html" | "tbody" | "td" | "tfoot" | "th"
    | "thead" | "tr" => return .done
    | "template" =>
      closeTemplate
      return .done
    | _ => inFrontOfTable token
  | .finish => inBody token
  | .documentType _ => return .done

private def inTableText (token : Token) : Build Next := do
  match token with
  | .zero => return .done
  | .chars text =>
    modify fun b => { b with tableText := b.tableText ++ text }
    return .done
  | token =>
    let text := (← get).tableText
    modify fun b => { b with tableText := [] }
    if isSpaceRun text then
      if !text.isEmpty then appendText text
    else
      let _ ← inFrontOfTable (.chars text)
    moveTo (← get).returnPlace token

private def isTablePart (name : String) : Bool :=
  ["caption", "col", "colgroup", "tbody", "td", "tfoot", "th", "thead", "tr"].contains name

private def inCaption (token : Token) : Build Next := do
  match token with
  | .start tag => if isTablePart tag.name then leave token false else inBody token
  | .close tag =>
    if tag.name == "table" then leave token false
    else if tag.name == "caption" then leave token true
    else if tag.name == "body" || tag.name == "html" || isTablePart tag.name then return .done
    else inBody token
  | token => inBody token
where
  leave (token : Token) (isOwn : Bool) : Build Next := do
    if (← get).inScope Label.isTableScope "caption" then
      closeImplied
      popNamed "caption"
      clearFormats
      if isOwn then
        setPlace .inTable
        return .done
      else moveTo .inTable token
    else return .done

private def inColumnGroup (token : Token) : Build Next := do
  match token with
  | .comment =>
    appendComment
    return .done
  | .chars text => byRuns text keepText fun run => leave (.chars run)
  | .start tag =>
    match tag.name with
    | "html" => asRoot token
    | "col" =>
      let _ ← addTag tag
      return .done
    | "template" => headTag tag
    | _ => leave token
  | .close tag =>
    match tag.name with
    | "colgroup" =>
      if (← get).currentLabel == .html "colgroup" then
        pop
        setPlace .inTable
      return .done
    | "col" => return .done
    | "template" =>
      closeTemplate
      return .done
    | _ => leave token
  | .finish => inBody token
  | token => leave token
where
  leave (token : Token) : Build Next := do
    if (← get).currentLabel == .html "colgroup" then
      pop
      moveTo .inTable token
    else return .done

private def inTableBody (token : Token) : Build Next := do
  match token with
  | .start tag =>
    match tag.name with
    | "tr" =>
      popTo tableBodyContext
      let _ ← openTag tag
      setPlace .inRow
      return .done
    | "th" | "td" =>
      popTo tableBodyContext
      let _ ← openNamed "tr"
      moveTo .inRow token
    | "caption" | "col" | "colgroup" | "tbody" | "tfoot" | "thead" => leave token
    | _ => inTable token
  | .close tag =>
    match tag.name with
    | "tbody" | "tfoot" | "thead" =>
      if (← get).inScope Label.isTableScope tag.name then
        popTo tableBodyContext
        pop
        setPlace .inTable
      return .done
    | "table" => leave token
    | "body" | "caption" | "col" | "colgroup" | "html" | "td" | "th" | "tr" => return .done
    | _ => inTable token
  | token => inTable token
where
  leave (token : Token) : Build Next := do
    let b ← get
    let isPart (id : NodeId) : Bool := (b.label id).isOneOf ["table", "tbody", "tfoot", "thead"]
    if b.inScopeWith Label.isTableScope isPart then
      popTo tableBodyContext
      pop
      moveTo .inTable token
    else return .done

private def inRow (token : Token) : Build Next := do
  match token with
  | .start tag =>
    match tag.name with
    | "th" | "td" =>
      popTo rowContext
      let _ ← openTag tag
      setPlace .inCell
      pushBorder
      return .done
    | "caption" | "col" | "colgroup" | "tbody" | "tfoot" | "thead" | "tr" => leave token
    | _ => inTable token
  | .close tag =>
    match tag.name with
    | "tr" =>
      if (← get).inScope Label.isTableScope "tr" then
        popTo rowContext
        pop
        setPlace .inTableBody
      return .done
    | "table" => leave token
    | "tbody" | "tfoot" | "thead" =>
      if (← get).inScope Label.isTableScope tag.name then leave token else return .done
    | "body" | "caption" | "col" | "colgroup" | "html" | "td" | "th" => return .done
    | _ => inTable token
  | token => inTable token
where
  leave (token : Token) : Build Next := do
    if (← get).inScope Label.isTableScope "tr" then
      popTo rowContext
      pop
      moveTo .inTableBody token
    else return .done

private def isCell (l : Label) : Bool := l.isOneOf ["td", "th"]

private def closeCell (token : Token) : Build Next := do
  closeImplied
  popThrough isCell
  clearFormats
  moveTo .inRow token

private def inCell (token : Token) : Build Next := do
  let b ← get
  match token with
  | .start tag =>
    if isTablePart tag.name then
      if b.inScopeWith Label.isTableScope fun id => isCell (b.label id) then closeCell token
      else return .done
    else inBody token
  | .close tag =>
    match tag.name with
    | "td" | "th" =>
      if b.inScope Label.isTableScope tag.name then
        closeImplied
        popNamed tag.name
        clearFormats
        setPlace .inRow
      return .done
    | "body" | "caption" | "col" | "colgroup" | "html" => return .done
    | "table" | "tbody" | "tfoot" | "thead" | "tr" =>
      if b.inScope Label.isTableScope tag.name then closeCell token else return .done
    | _ => inBody token
  | token => inBody token

private def inSelect (token : Token) : Build Next := do
  let b ← get
  match token with
  | .zero | .documentType _ => return .done
  | .chars text => keepText text
  | .comment =>
    appendComment
    return .done
  | .finish => inBody token
  | .start tag =>
    match tag.name with
    | "html" => asRoot token
    | "option" =>
      if b.currentLabel == .html "option" then pop
      let _ ← openTag tag
      return .done
    | "optgroup" =>
      if b.currentLabel == .html "option" then pop
      if (← get).currentLabel == .html "optgroup" then pop
      let _ ← openTag tag
      return .done
    | "select" =>
      closeSelect
      return .done
    | "input" | "keygen" | "textarea" =>
      if b.inScope Label.isSelectScope "select" then
        popNamed "select"
        moveTo (← get).placeOfOpened token
      else return .done
    | "script" | "template" => headTag tag
    | _ => return .done
  | .close tag =>
    match tag.name with
    | "optgroup" =>
      match b.opened with
      | _ :: outer :: _ =>
        if b.currentLabel == .html "option" && b.label outer == .html "optgroup" then pop
      | _ => pure ()
      if (← get).currentLabel == .html "optgroup" then pop
      return .done
    | "option" =>
      if b.currentLabel == .html "option" then pop
      return .done
    | "select" =>
      closeSelect
      return .done
    | "template" =>
      closeTemplate
      return .done
    | _ => return .done
where
  closeSelect : Build Unit := do
    if (← get).inScope Label.isSelectScope "select" then
      popNamed "select"
      modify fun b => { b with place := b.placeOfOpened }

private def inSelectInTable (token : Token) : Build Next := do
  let leaves (name : String) : Bool :=
    ["caption", "table", "tbody", "tfoot", "thead", "tr", "td", "th"].contains name
  match token with
  | .start tag =>
    if leaves tag.name then
      popNamed "select"
      moveTo (← get).placeOfOpened token
    else inSelect token
  | .close tag =>
    if leaves tag.name then
      if (← get).inScope Label.isTableScope tag.name then
        popNamed "select"
        moveTo (← get).placeOfOpened token
      else return .done
    else inSelect token
  | token => inSelect token

private def inTemplate (token : Token) : Build Next := do
  match token with
  | .chars _ | .comment => inBody token
  | .start tag =>
    if isHeadTag tag.name then headTag tag
    else
      let place := match tag.name with
        | "caption" | "colgroup" | "tbody" | "tfoot" | "thead" => Place.inTable
        | "col" => .inColumnGroup
        | "tr" => .inTableBody
        | "td" | "th" => .inRow
        | _ => .inBody
      modify fun b => { b with templatePlaces := place :: b.templatePlaces.drop 1 }
      moveTo place token
  | .close tag =>
    if tag.name == "template" then closeTemplate
    return .done
  | .finish => finishTemplates token
  | .zero | .documentType _ => return .done

private def afterBody (token : Token) : Build Next := do
  match token with
  | .comment =>
    appendCommentTo (← get).root
    return .done
  | .chars text => byRuns text (fun run => inBody (.chars run)) fun run => leave (.chars run)
  | .start tag => if tag.name == "html" then asRoot token else leave token
  | .close tag =>
    if tag.name == "html" then
      if !(← get).isFragment then setPlace .afterAfterBody
      return .done
    else leave token
  | .finish => return .done
  | token => leave token
where
  leave (token : Token) : Build Next := moveTo .inBody token

private def inFrameset (token : Token) : Build Next := do
  match token with
  | .comment =>
    appendComment
    return .done
  | .chars text => byRuns text keepText ignore
  | .start tag =>
    match tag.name with
    | "html" => asRoot token
    | "frameset" =>
      let _ ← openTag tag
      return .done
    | "frame" =>
      let _ ← addTag tag
      return .done
    | "noframes" => headTag tag
    | _ => return .done
  | .close tag =>
    let b ← get
    if tag.name == "frameset" && b.opened.length != 1 then
      pop
      if !b.isFragment && (← get).currentLabel != .html "frameset" then setPlace .afterFrameset
    return .done
  | _ => return .done

private def afterFrameset (token : Token) : Build Next := do
  match token with
  | .comment =>
    appendComment
    return .done
  | .chars text => byRuns text keepText ignore
  | .start tag =>
    match tag.name with
    | "html" => asRoot token
    | "noframes" => headTag tag
    | _ => return .done
  | .close tag =>
    if tag.name == "html" then setPlace .afterAfterFrameset
    return .done
  | _ => return .done

private def afterAfterBody (token : Token) : Build Next := do
  match token with
  | .comment =>
    appendCommentTo 0
    return .done
  | .chars text => byRuns text (fun run => inBody (.chars run)) fun run => leave (.chars run)
  | .start tag => if tag.name == "html" then asRoot token else leave token
  | .finish => return .done
  | token => leave token
where
  leave (token : Token) : Build Next := moveTo .inBody token

private def afterAfterFrameset (token : Token) : Build Next := do
  match token with
  | .comment =>
    appendCommentTo 0
    return .done
  | .chars text => byRuns text (fun run => inBody (.chars run)) ignore
  | .start tag =>
    match tag.name with
    | "html" => asRoot token
    | "noframes" => headTag tag
    | _ => return .done
  | _ => return .done

/-- What the reader does with a piece at its present place. -/
def byPlace (token : Token) : Build Next := do
  match (← get).place with
  | .initial => initial token
  | .beforeHtml => beforeHtml token
  | .beforeHead => beforeHead token
  | .inHead => inHead token
  | .afterHead => afterHead token
  | .inBody => inBody token
  | .inText => inText token
  | .inTable => inTable token
  | .inTableText => inTableText token
  | .inCaption => inCaption token
  | .inColumnGroup => inColumnGroup token
  | .inTableBody => inTableBody token
  | .inRow => inRow token
  | .inCell => inCell token
  | .inSelect => inSelect token
  | .inSelectInTable => inSelectInTable token
  | .inTemplate => inTemplate token
  | .afterBody => afterBody token
  | .inFrameset => inFrameset token
  | .afterFrameset => afterFrameset token
  | .afterAfterBody => afterAfterBody token
  | .afterAfterFrameset => afterAfterFrameset token

/-- Whether a piece falls under the rules for drawings and formulas. -/
def isForeign (b : Builder) (token : Token) : Bool :=
  let label := match b.opened with
    | [] => Label.html ""
    | [_] => if b.isFragment then .html "body" else b.currentLabel
    | _ => b.currentLabel
  match token with
  | .finish => false
  | .chars _ | .zero => label.ns != .html && !label.isTextPoint && !label.isHtmlPoint
  | .start tag =>
    label.ns != .html && !label.isHtmlPoint &&
      !(label.isTextPoint && tag.name != "mglyph" && tag.name != "malignmark") &&
      !(label == ⟨.math, "annotation-xml"⟩ && tag.name == "svg")
  | _ => label.ns != .html

private def closeForeign (tag : Tag) : Build Next := do
  let b ← get
  search b true b.opened
where
  search (b : Builder) (isFirst : Bool) : List NodeId → Build Next
    | [] => return .done
    | id :: rest => do
      let label := b.label id
      if rest.isEmpty then return .done
      else if !isFirst && label.ns == .html then return .byPlace (.close tag)
      else if Text.lowerAsciiText label.name == tag.name then
        modify fun b => { b with opened := rest }
        return .done
      else search b false rest

/-- The rules inside drawings and formulas. -/
def foreign (token : Token) : Build Next := do
  match token with
  | .zero => keepText [Char.ofNat 0xFFFD]
  | .chars text =>
    if !isSpaceRun text then forbidFrameset
    keepText text
  | .comment =>
    appendComment
    return .done
  | .start tag =>
    let b ← get
    let ns := if b.currentLabel.ns == .html then Namespace.html else b.currentLabel.ns
    let leaves := breakouts.contains tag.name ||
      (tag.name == "font" && tag.attributes.any fun a => ["color", "face", "size"].contains a.1)
    if leaves && !b.isFragment then
      pop
      popTo fun l => l.ns == .html || l.isTextPoint || l.isHtmlPoint
      return .again token
    else openForeign ns tag
  | .close tag => closeForeign tag
  | .finish | .documentType _ => return .done

/-- Looks at a piece until it is dealt with, and says how to read on. -/
def handle (mode : ReadMode) (foreignRules : Bool) : (fuel : Nat) → Token → Build ReadMode
  | 0, _ => return mode
  | fuel + 1, token => do
    let next ← if foreignRules && isForeign (← get) token then foreign token else byPlace token
    match next with
    | .done => return mode
    | .again token => handle mode true fuel token
    | .byPlace token => handle mode false fuel token
    | .text mode => return mode

end Harvest.Html.Rules
