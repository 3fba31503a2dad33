import Harvest.Html.Token

/-!
Classes of elements that the reading of HTML distinguishes, by name and namespace.
-/

namespace Harvest.Html

inductive Namespace where
  | html
  | svg
  | math
  deriving DecidableEq

/-- The name of an element with its namespace. -/
structure Label where
  ns : Namespace
  name : String
  deriving DecidableEq

namespace Label

def html (name : String) : Label := ⟨.html, name⟩

/-- An element of HTML with one of these names. -/
def isOneOf (l : Label) (names : List String) : Bool := l.ns == .html && names.contains l.name

def isTextPoint (l : Label) : Bool :=
  l.ns == .math && ["mi", "mo", "mn", "ms", "mtext"].contains l.name

def isHtmlPoint (l : Label) : Bool :=
  l.ns == .svg && ["foreignObject", "desc", "title"].contains l.name

/-- Elements that open tags cannot be closed across. -/
def isScope (l : Label) : Bool :=
  l.isOneOf ["applet", "caption", "html", "table", "td", "th", "marquee", "object", "template"] ||
    l.isTextPoint || l.isHtmlPoint

def isListScope (l : Label) : Bool := l.isScope || l.isOneOf ["ol", "ul"]

def isButtonScope (l : Label) : Bool := l.isScope || l.isOneOf ["button"]

def isTableScope (l : Label) : Bool := l.isOneOf ["html", "table", "template"]

def isSelectScope (l : Label) : Bool := !l.isOneOf ["optgroup", "option"]

def headings : List String := ["h1", "h2", "h3", "h4", "h5", "h6"]

def isHeading (l : Label) : Bool := l.isOneOf headings

/-- Elements whose end tags may be left out. -/
def hasImpliedEnd (l : Label) : Bool :=
  l.isOneOf ["dd", "dt", "li", "option", "optgroup", "p", "rb", "rp", "rt", "rtc"]

def hasImpliedEndInTemplate (l : Label) : Bool :=
  l.hasImpliedEnd ||
    l.isOneOf ["caption", "colgroup", "tbody", "td", "tfoot", "th", "thead", "tr"]

/-- Elements that end the search for a matching start tag. -/
def isSpecial (l : Label) : Bool :=
  l.isOneOf ["address", "applet", "area", "article", "aside", "base", "basefont", "bgsound",
    "blockquote", "body", "br", "button", "caption", "center", "col", "colgroup", "dd", "details",
    "dir", "div", "dl", "dt", "embed", "fieldset", "figcaption", "figure", "footer", "form",
    "frame", "frameset", "h1", "h2", "h3", "h4", "h5", "h6", "head", "header", "hgroup", "hr",
    "html", "iframe", "img", "input", "isindex", "li", "link", "listing", "main", "marquee",
    "menu", "meta", "nav", "noembed", "noframes", "noscript", "object", "ol", "p", "param",
    "plaintext", "pre", "script", "section", "select", "source", "style", "summary", "table",
    "tbody", "td", "template", "textarea", "tfoot", "th", "thead", "title", "tr", "track", "ul",
    "wbr", "xmp"]

end Label

/-- Tags that cannot stand inside drawings and formulas. -/
def breakouts : List String :=
  ["b", "big", "blockquote", "body", "br", "center", "code", "dd", "div", "dl", "dt", "em",
    "embed", "h1", "h2", "h3", "h4", "h5", "h6", "head", "hr", "i", "img", "li", "listing",
    "menu", "meta", "nobr", "ol", "p", "pre", "ruby", "s", "small", "span", "strong", "strike",
    "sub", "sup", "table", "tt", "u", "ul", "var"]

/-- Tags whose effect is taken up again in the next block. -/
def formatting : List String :=
  ["a", "b", "big", "code", "em", "font", "i", "nobr", "s", "small", "strike", "strong", "tt", "u"]

/-- Tags of blocks, which close an open paragraph. -/
def blocks : List String :=
  ["address", "article", "aside", "blockquote", "center", "details", "dialog", "dir", "div", "dl",
    "fieldset", "figcaption", "figure", "footer", "header", "hgroup", "main", "menu", "nav", "ol",
    "p", "section", "summary", "ul"]

/-- Blocks that an end tag closes wherever they are open. -/
def closableBlocks : List String :=
  ["address", "article", "aside", "blockquote", "button", "center", "details", "dialog", "dir",
    "div", "dl", "fieldset", "figcaption", "figure", "footer", "header", "hgroup", "listing",
    "main", "menu", "nav", "ol", "pre", "section", "summary", "ul"]

private def oldPublicIds : List String :=
  ["+//silmaril//dtd html pro v0r11 19970101//", "-//advasoft ltd//dtd html 3.0 aswedit + extensions//",
    "-//as//dtd html 3.0 aswedit + extensions//", "-//ietf//dtd html 2.0 level 1//",
    "-//ietf//dtd html 2.0 level 2//", "-//ietf//dtd html 2.0 strict level 1//",
    "-//ietf//dtd html 2.0 strict level 2//", "-//ietf//dtd html 2.0 strict//",
    "-//ietf//dtd html 2.0//", "-//ietf//dtd html 2.1e//", "-//ietf//dtd html 3.0//",
    "-//ietf//dtd html 3.2 final//", "-//ietf//dtd html 3.2//", "-//ietf//dtd html 3//",
    "-//ietf//dtd html level 0//", "-//ietf//dtd html level 1//", "-//ietf//dtd html level 2//",
    "-//ietf//dtd html level 3//", "-//ietf//dtd html strict level 0//",
    "-//ietf//dtd html strict level 1//", "-//ietf//dtd html strict level 2//",
    "-//ietf//dtd html strict level 3//", "-//ietf//dtd html strict//", "-//ietf//dtd html//",
    "-//metrius//dtd metrius presentational//",
    "-//microsoft//dtd internet explorer 2.0 html strict//",
    "-//microsoft//dtd internet explorer 2.0 html//",
    "-//microsoft//dtd internet explorer 2.0 tables//",
    "-//microsoft//dtd internet explorer 3.0 html strict//",
    "-//microsoft//dtd internet explorer 3.0 html//",
    "-//microsoft//dtd internet explorer 3.0 tables//", "-//netscape comm. corp.//dtd html//",
    "-//netscape comm. corp.//dtd strict html//", "-//o'reilly and associates//dtd html 2.0//",
    "-//o'reilly and associates//dtd html extended 1.0//",
    "-//o'reilly and associates//dtd html extended relaxed 1.0//",
    "-//softquad software//dtd hotmetal pro 6.0::19990601::extensions to html 4.0//",
    "-//softquad//dtd hotmetal pro 4.0::19971010::extensions to html 4.0//",
    "-//spyglass//dtd html 2.0 extended//", "-//sq//dtd html 2.0 hotmetal + extensions//",
    "-//sun microsystems corp.//dtd hotjava html//",
    "-//sun microsystems corp.//dtd hotjava strict html//",
    "-//w3c//dtd html 3 1995-03-24//", "-//w3c//dtd html 3.2 draft//",
    "-//w3c//dtd html 3.2 final//", "-//w3c//dtd html 3.2//", "-//w3c//dtd html 3.2s draft//",
    "-//w3c//dtd html 4.0 frameset//", "-//w3c//dtd html 4.0 transitional//",
    "-//w3c//dtd html experimental 19960712//", "-//w3c//dtd html experimental 970421//",
    "-//w3c//dtd w3 html//", "-//w3o//dtd w3 html 3.0//",
    "-//webtechs//dtd mozilla html 2.0//", "-//webtechs//dtd mozilla html//"]

/-- Whether a document of this type is laid out by the rules of old browsers. -/
def DocumentType.isOld (d : DocumentType) : Bool :=
  let publicId := d.publicId.getD ""
  let startsWith (start : String) : Bool := start.toList.isPrefixOf publicId.toList
  d.broken || d.name != "html" ||
    ["-//w3o//dtd w3 html strict 3.0//en//", "-/w3c/dtd html 4.0 transitional/en", "html"].contains
      publicId ||
    d.systemId == some "http://www.ibm.com/data/dtd/v11/ibmxhtml1-transitional.dtd" ||
    oldPublicIds.any startsWith ||
    (d.systemId.isNone &&
      ["-//w3c//dtd html 4.01 frameset//", "-//w3c//dtd html 4.01 transitional//"].any startsWith)

end Harvest.Html
