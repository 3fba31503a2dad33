import Harvest.Html.CharRef
import Harvest.Text.Blank

/-!
The pieces of HTML text: tags, runs of characters, comments. What counts as a tag depends on the
element the reader is in, so a piece is read in a given mode.
-/

namespace Harvest.Html

structure Tag where
  name : String
  attributes : List (String × String)
  selfClosing : Bool
  deriving DecidableEq

/-- A document type: its name and identifiers in lower case; `broken` if it is incomplete. -/
structure DocumentType where
  name : String
  publicId : Option String
  systemId : Option String
  broken : Bool

inductive Token where
  | start (tag : Tag)
  | close (tag : Tag)
  | chars (text : List Char)
  | zero
  | comment
  | documentType (d : DocumentType)
  | finish

/-- How the next piece is read: with tags, or as text up to the end tag of an element, with or
without character references, or as a script, or as text to the end. -/
inductive ReadMode where
  | data
  | escapable (name : String)
  | raw (name : String)
  | script
  | plain
  deriving DecidableEq

namespace Token

def isSpace (c : Char) : Bool :=
  c == ' ' || c == '\t' || c == '\n' || c.toNat == 12 || c == '\r'

private def isLetter (c : Char) : Bool := ('a' ≤ c && c ≤ 'z') || ('A' ≤ c && c ≤ 'Z')

private def replacement : Char := Char.ofNat 0xFFFD

private def isZero (c : Char) : Bool := c.toNat == 0

private def noZero (c : Char) : Char := if isZero c then replacement else c

private def nameText (name : List Char) : String :=
  String.ofList (name.map fun c => noZero (Text.lowerAscii c))

/-- The value of an attribute with its references resolved. -/
private def resolve (done : List Char) : (fuel : Nat) → List Char → String
  | 0, _ => String.ofList done.reverse
  | _ + 1, [] => String.ofList done.reverse
  | fuel + 1, c :: rest =>
    if c == '&' then
      match CharRef.read true rest with
      | some (value, rest) => resolve (value.reverse ++ done) fuel rest
      | none => resolve ('&' :: done) fuel rest
    else resolve (noZero c :: done) fuel rest

private def resolveValue (text : List Char) : String := resolve [] (text.length + 1) text

/-- Reads the value behind an equals sign; none if the text ends within it. -/
private def readValue (text : List Char) : Option (String × List Char) :=
  match text.dropWhile isSpace with
  | [] => none
  | '>' :: rest => some ("", '>' :: rest)
  | c :: rest =>
    if c == '"' || c == '\'' then
      match rest.dropWhile (· != c) with
      | [] => none
      | _ :: after => some (resolveValue (rest.takeWhile (· != c)), after)
    else
      let ends (c : Char) : Bool := isSpace c || c == '>'
      match (c :: rest).dropWhile (!ends ·) with
      | [] => none
      | after => some (resolveValue ((c :: rest).takeWhile (!ends ·)), after)

private def addAttribute (done : List (String × String)) (name value : String) :
    List (String × String) :=
  if done.any (·.1 == name) then done else done ++ [(name, value)]

/-- Reads attributes up to the end of the tag; none if the text ends within it. -/
private def readAttributes (done : List (String × String)) :
    (fuel : Nat) → List Char → Option (List (String × String) × Bool × List Char)
  | 0, _ => none
  | fuel + 1, text =>
    match text.dropWhile isSpace with
    | [] => none
    | '>' :: rest => some (done, false, rest)
    | '/' :: '>' :: rest => some (done, true, rest)
    | '/' :: rest => readAttributes done fuel rest
    | c :: rest =>
      let ends (c : Char) : Bool := isSpace c || c == '/' || c == '>' || c == '='
      let name := nameText (c :: rest.takeWhile (!ends ·))
      let after := rest.dropWhile (!ends ·)
      match after.dropWhile isSpace with
      | '=' :: rest =>
        match readValue rest with
        | some (value, rest) => readAttributes (addAttribute done name value) fuel rest
        | none => none
      | _ => readAttributes (addAttribute done name "") fuel after

/-- Reads a tag from its name on; none if the text ends within it. -/
private def readTag (text : List Char) : Option (Tag × List Char) :=
  let ends (c : Char) : Bool := isSpace c || c == '/' || c == '>'
  let name := nameText (text.takeWhile (!ends ·))
  match readAttributes [] (text.length + 1) (text.dropWhile (!ends ·)) with
  | some (attributes, selfClosing, rest) => some (⟨name, attributes, selfClosing⟩, rest)
  | none => none

/-- The text behind the end of a comment that is open. -/
private def skipComment : List Char → List Char
  | [] => []
  | '-' :: '-' :: '>' :: rest => rest
  | '-' :: '-' :: '!' :: '>' :: rest => rest
  | _ :: rest => skipComment rest

/-- The text behind a comment, from behind its opening hyphens. -/
private def afterComment : List Char → List Char
  | '>' :: rest => rest
  | '-' :: '>' :: rest => rest
  | text => skipComment text

private def afterBogus (text : List Char) : List Char := (text.dropWhile (· != '>')).drop 1

private def startsWith (word : String) (text : List Char) : Bool :=
  word.toList.isPrefixOf ((text.take word.length).map Text.lowerAscii)

private def lowerText (text : List Char) : String := nameText text

/-- A quoted identifier of a document type. -/
private def readIdentifier (text : List Char) : Option (String × List Char × Bool) :=
  match text.dropWhile isSpace with
  | c :: rest =>
    if c == '"' || c == '\'' then
      let ends (d : Char) : Bool := d == c || d == '>'
      let after := rest.dropWhile (!ends ·)
      let closed := after.head? == some c
      some (lowerText (rest.takeWhile (!ends ·)), if closed then after.drop 1 else after, closed)
    else none
  | [] => none

/-- Reads a document type from behind its keyword. -/
private def readDocumentType (text : List Char) : DocumentType × List Char :=
  let text := text.dropWhile isSpace
  let ends (c : Char) : Bool := isSpace c || c == '>'
  let name := lowerText (text.takeWhile (!ends ·))
  let rest := (text.dropWhile (!ends ·)).dropWhile isSpace
  let done (publicId systemId : Option String) (broken : Bool) (rest : List Char) :=
    ((⟨name, publicId, systemId, broken || (rest.dropWhile (· != '>')).isEmpty⟩ : DocumentType),
      afterBogus rest)
  if startsWith "public" rest then
    match readIdentifier (rest.drop 6) with
    | none => done none none true rest
    | some (publicId, rest, false) => done (some publicId) none true rest
    | some (publicId, rest, true) =>
      match readIdentifier rest with
      | none => done (some publicId) none ((rest.dropWhile isSpace).head? != some '>') rest
      | some (systemId, rest, closed) => done (some publicId) (some systemId) (!closed) rest
  else if startsWith "system" rest then
    match readIdentifier (rest.drop 6) with
    | none => done none none true rest
    | some (systemId, rest, closed) => done none (some systemId) (!closed) rest
  else done none none (rest.head? != some '>' || name.isEmpty) rest

/-- The text of a section up to its closing brackets. -/
private def readSection (done : List Char) : List Char → List Char × List Char
  | [] => (done.reverse, [])
  | ']' :: ']' :: '>' :: rest => (done.reverse, rest)
  | c :: rest => readSection (c :: done) rest

/-- Reads what follows `<!`. -/
private def readDeclaration (sections : Bool) (text : List Char) : Token × List Char :=
  match text with
  | '-' :: '-' :: rest => (.comment, afterComment rest)
  | text =>
    if startsWith "doctype" text then
      let (d, rest) := readDocumentType (text.drop 7)
      (.documentType d, rest)
    else if sections && "[CDATA[".toList.isPrefixOf text then
      let (content, rest) := readSection [] (text.drop 7)
      (.chars content, rest)
    else (.comment, afterBogus text)

/-- Reads a run of characters with references, up to a tag or a zero. -/
private def readRun (done : List Char) : (fuel : Nat) → List Char → List Char × List Char
  | 0, text => (done.reverse, text)
  | _ + 1, [] => (done.reverse, [])
  | fuel + 1, c :: rest =>
    if isZero c then (done.reverse, c :: rest)
    else if c == '<' then
      match rest with
      | d :: _ =>
        if isLetter d || d == '/' || d == '!' || d == '?' then (done.reverse, c :: rest)
        else readRun (c :: done) fuel rest
      | [] => readRun (c :: done) fuel rest
    else if c == '&' then
      match CharRef.read false rest with
      | some (value, rest) => readRun (value.reverse ++ done) fuel rest
      | none => readRun (c :: done) fuel rest
    else readRun (c :: done) fuel rest

/-- Reads a piece that starts with `<` and what makes it markup. -/
private def readMarkup (sections : Bool) (text : List Char) : Token × List Char :=
  match text with
  | '!' :: rest => readDeclaration sections rest
  | '?' :: rest => (.comment, afterBogus rest)
  | ['/'] => (.chars ['<', '/'], [])
  | '/' :: '>' :: rest => (.chars [], rest)
  | '/' :: c :: rest =>
    if isLetter c then
      match readTag (c :: rest) with
      | some (tag, rest) => (.close tag, rest)
      | none => (.finish, [])
    else (.comment, afterBogus (c :: rest))
  | text =>
    match readTag text with
    | some (tag, rest) => (.start tag, rest)
    | none => (.finish, [])

/-- Whether the text starts with the end tag of an element, and the tag from its name on. -/
private def endTag? (name : String) (text : List Char) : Option (List Char) :=
  match text with
  | '<' :: '/' :: rest =>
    if startsWith name rest &&
        (rest.drop name.length).head?.any (fun c => isSpace c || c == '/' || c == '>') then
      some rest
    else none
  | _ => none

/-- Reads text up to the end tag of an element. -/
private def readText (name : String) (references : Bool) (done : List Char) :
    (fuel : Nat) → List Char → List Char × List Char
  | 0, text => (done.reverse, text)
  | _ + 1, [] => (done.reverse, [])
  | fuel + 1, c :: rest =>
    if (endTag? name (c :: rest)).isSome then (done.reverse, c :: rest)
    else if references && c == '&' then
      match CharRef.read false rest with
      | some (value, rest) => readText name references (value.reverse ++ done) fuel rest
      | none => readText name references (c :: done) fuel rest
    else readText name references (noZero c :: done) fuel rest

/-- How deep a script is in comments that hide its end tag. -/
private inductive Hiding where
  | open_
  | escaped
  | doubled

/-- Whether a keyword stands here with a mark behind it. -/
private def keyword (start : String) (text : List Char) : Bool :=
  startsWith start text &&
    (text.drop start.length).head?.any (fun c => isSpace c || c == '/' || c == '>')

/-- Reads a script up to its end tag. -/
private def readScript (depth : Hiding) (done : List Char) : List Char → List Char × List Char
  | [] => (done.reverse, [])
  | c :: rest =>
    let text := c :: rest
    match depth with
    | .open_ =>
      if (endTag? "script" text).isSome then (done.reverse, text)
      else if "<!--".toList.isPrefixOf text then readScript .escaped (noZero c :: done) rest
      else readScript .open_ (noZero c :: done) rest
    | .escaped =>
      if (endTag? "script" text).isSome then (done.reverse, text)
      else if "-->".toList.isPrefixOf text then readScript .open_ (noZero c :: done) rest
      else if keyword "<script" text then readScript .doubled (noZero c :: done) rest
      else readScript .escaped (noZero c :: done) rest
    | .doubled =>
      if "-->".toList.isPrefixOf text then readScript .open_ (noZero c :: done) rest
      else if keyword "</script" text then readScript .escaped (noZero c :: done) rest
      else readScript .doubled (noZero c :: done) rest

/-- The end tag of an element, once its text is read. -/
private def readEnd (name : String) (text : List Char) : Token × List Char :=
  match endTag? name text with
  | none => (.finish, [])
  | some rest =>
    match readTag rest with
    | some (tag, rest) => (.close tag, rest)
    | none => (.finish, [])

/-- Reads the next piece. `sections` says whether marked sections may stand here. -/
def next (mode : ReadMode) (sections : Bool) (text : List Char) : Token × List Char :=
  let inText (name : String) (read : List Char × List Char) : Token × List Char :=
    if read.1.isEmpty then readEnd name text else (.chars read.1, read.2)
  match text with
  | [] => (.finish, [])
  | c :: rest =>
    match mode with
    | .data =>
      if isZero c then (.zero, rest)
      else
        let (run, after) := readRun [] (text.length + 1) text
        if run.isEmpty then readMarkup sections rest else (.chars run, after)
    | .escapable name => inText name (readText name true [] (text.length + 1) text)
    | .raw name => inText name (readText name false [] (text.length + 1) text)
    | .script => inText "script" (readScript .open_ [] text)
    | .plain => (.chars (text.map noZero), [])

/-- Line ends become single line feeds, and a byte order mark at the start is dropped. -/
def cleanInput (text : List Char) : List Char :=
  lineFeeds (if text.head?.any (·.toNat == 0xFEFF) then text.drop 1 else text)
where
  lineFeeds : List Char → List Char
    | [] => []
    | '\r' :: '\n' :: rest => '\n' :: lineFeeds rest
    | c :: rest => (if c == '\r' then '\n' else c) :: lineFeeds rest

end Token

end Harvest.Html
