import Harvest.Decimal.Read
import Harvest.Text.Charset

/-!
The events of a document in angle brackets: tags, text, and faults where the document breaks the
rules. Reading goes on behind a fault, so that a reader of events may overlook it.
-/

namespace Harvest.Markup

/-- The label and the attributes of a start tag. Namespace declarations are also kept as written,
without their references resolved. -/
structure Tag where
  label : String
  attributes : List (String × String)
  bindings : List (String × String)
  deriving DecidableEq

inductive Event where
  | start (tag : Tag)
  | finish (label : String)
  | text (content : List Char)
  | fault
  deriving DecidableEq

/-- What is left to read, and the character set it is in. -/
structure Source where
  charset : Text.Charset
  /-- Whether the document has named its character set. -/
  isSettled : Bool
  rest : List UInt8

private def byte (c : Char) : UInt8 := c.toNat.toUInt8

private def bytes (text : String) : List UInt8 := text.toList.map byte

private def isSpace (b : UInt8) : Bool := b == 32 || b == 9 || b == 10 || b == 13

/-- Splits before the first place where a text stands, and drops that text. -/
private def cutBefore? (mark : List UInt8) (done : List UInt8) :
    List UInt8 → Option (List UInt8 × List UInt8)
  | [] => none
  | text@(b :: rest) =>
    if mark.isPrefixOf text then some (done.reverse, text.drop mark.length)
    else cutBefore? mark (b :: done) rest

/-- The character a number stands for. -/
private def numberedChar? (digits : List Char) : Option Char :=
  let value? : Option Nat :=
    match digits with
    | 'x' :: hex => hex.foldlM (fun n c =>
        if Decimal.isDigit c then some (n * 16 + (c.toNat - 48))
        else if 'a' ≤ c && c ≤ 'f' then some (n * 16 + (c.toNat - 87))
        else if 'A' ≤ c && c ≤ 'F' then some (n * 16 + (c.toNat - 55))
        else none) 0
    | _ => if digits.all Decimal.isDigit then some (Decimal.ofDigits digits) else none
  match value? with
  | some n => if n != 0 && n.isValidChar then some (Char.ofNat n) else none
  | none => none

private def namedChar? (name : String) : Option Char :=
  match name with
  | "amp" => some '&'
  | "lt" => some '<'
  | "gt" => some '>'
  | "quot" => some '"'
  | "apos" => some (Char.ofNat 39)
  | _ => none

/-- The text of a reference. A name that stands for nothing is kept as it is, a number that stands
for nothing is a fault. -/
def resolve (name : List Char) : Event :=
  match name with
  | '#' :: digits =>
    match numberedChar? digits with
    | some c => .text [c]
    | none => .fault
  | _ =>
    match namedChar? (String.ofList name) with
    | some c => .text [c]
    | none => .text ('&' :: name ++ [';'])

/-- The value of an attribute with all references resolved, if they can be. -/
private def resolveAll (done : List Char) : (fuel : Nat) → List Char → Option (List Char)
  | 0, _ => none
  | _ + 1, [] => some done.reverse
  | fuel + 1, '&' :: rest =>
    match rest.span (· != ';') with
    | (name, _ :: later) =>
      let c? := match name with
        | '#' :: digits => numberedChar? digits
        | _ => namedChar? (String.ofList name)
      match c? with
      | some c => resolveAll (c :: done) fuel later
      | none => none
    | (_, []) => none
  | fuel + 1, c :: rest => resolveAll (c :: done) fuel rest

private def attributeValue (raw : List Char) : String :=
  String.ofList ((resolveAll [] (raw.length + 1) raw).getD raw)

/-- The attributes of a tag, with values as written. Pieces that are no attributes are left out. -/
private def readAttributes : (fuel : Nat) → List UInt8 → List (List UInt8 × List UInt8)
  | 0, _ => []
  | fuel + 1, text =>
    match text.dropWhile isSpace with
    | [] => []
    | text =>
      let (key, rest) := text.span fun b => b != byte '=' && !isSpace b
      match rest.dropWhile isSpace with
      | [] => []
      | b :: rest =>
        if b != byte '=' then readAttributes fuel (b :: rest)
        else match rest.dropWhile isSpace with
          | [] => []
          | quote :: rest =>
            if quote == byte '"' || quote == 39 then
              match rest.span (· != quote) with
              | (value, _ :: later) => (key, value) :: readAttributes fuel later
              | (_, []) => []
            else readAttributes fuel (rest.dropWhile fun b => !isSpace b)

private def decodePair (set : Text.Charset) (pair : List UInt8 × List UInt8) :
    Option (String × List Char) := do
  some (String.ofList (← set.decode? pair.1), ← set.decode? pair.2)

/-- The events of a start tag, given what stands between its angle brackets. -/
private def startTag (set : Text.Charset) (content : List UInt8) : List Event :=
  let isEmpty : Bool := content.getLast? == some (byte '/')
  let content := if isEmpty then content.dropLast else content
  let (name, rest) := content.span fun b => !isSpace b
  let label := String.ofList (set.decodeLossy name)
  let attributes := (readAttributes (rest.length + 1) rest).filterMap (decodePair set)
  let tag : Tag :=
    { label
      attributes := attributes.map fun a => (a.1, attributeValue a.2)
      bindings := attributes.filterMap fun a =>
        if a.1 == "xmlns" then some ("", String.ofList a.2)
        else if "xmlns:".toList.isPrefixOf a.1.toList then
          some (String.ofList (a.1.toList.drop 6), String.ofList a.2)
        else none }
  (if (set.decode? name).isNone then [.fault] else []) ++
    .start tag :: (if isEmpty then [.finish label] else [])

/-- Splits behind the angle bracket that closes a tag; one inside quotes does not. -/
private def cutTag? (quote : Option UInt8) (done : List UInt8) :
    List UInt8 → Option (List UInt8 × List UInt8)
  | [] => none
  | b :: rest =>
    match quote with
    | some q => cutTag? (if b == q then none else quote) (b :: done) rest
    | none =>
      if b == byte '>' then some (done.reverse, rest)
      else cutTag? (if b == byte '"' || b == 39 then some b else none) (b :: done) rest

/-- Splits behind the angle bracket that closes a declaration with `depth` brackets open in it. -/
private def cutNested? (depth : Nat) : List UInt8 → Option (List UInt8)
  | [] => none
  | b :: rest =>
    if b == byte '<' then cutNested? (depth + 1) rest
    else if b == byte '>' then
      match depth with
      | 0 => some rest
      | depth + 1 => cutNested? depth rest
    else cutNested? depth rest

private def Source.continueAt (s : Source) (rest : List UInt8) : Source := { s with rest }

/-- Takes note of the character set that a document names for itself. -/
private def Source.declare (s : Source) (content : List UInt8) : Source :=
  if s.isSettled then s
  else
    let named := (readAttributes (content.length + 1) content).find? fun a => a.1 == bytes "encoding"
    match named.bind fun a => Text.Charset.ofLabel? (a.2.map fun b => Char.ofNat b.toNat) with
    | some charset => { s with charset, isSettled := true }
    | none => s

private def stop (s : Source) : List Event × Source := ([.fault], s.continueAt [])

/-- Reads behind `<!`. -/
private def special (s : Source) (text : List UInt8) : List Event × Source :=
  match text with
  | [] => stop s
  | b :: rest =>
    if b == byte '-' then
      match rest with
      | c :: rest =>
        match cutBefore? (bytes "-->") [] rest with
        | some (_, later) => (if c == byte '-' then [] else [.fault], s.continueAt later)
        | none => stop s
      | [] => stop s
    else if b == byte '[' then
      match cutBefore? (bytes "]]>") [] rest with
      | some (content, later) =>
        let events : List Event :=
          if (bytes "CDATA[").isPrefixOf content then
            match s.charset.decode? (content.drop 6) with
            | some text => [.text text]
            | none => [.fault]
          else [.fault]
        (events, s.continueAt later)
      | none => stop s
    else if b == byte 'D' || b == byte 'd' then
      match cutNested? 0 rest with
      | some later => ([], s.continueAt later)
      | none => stop s
    else ([.fault], s.continueAt rest)

/-- Reads behind an opening angle bracket. -/
private def markup (s : Source) (text : List UInt8) : List Event × Source :=
  match text with
  | [] => stop s
  | b :: rest =>
    if b == byte '!' then special s rest
    else if b == byte '/' then
      match rest.span (· != byte '>') with
      | (content, _ :: later) =>
        let name := (content.reverse.dropWhile isSpace).reverse
        ([.finish (String.ofList (s.charset.decodeLossy name))], s.continueAt later)
      | (_, []) => stop s
    else if b == byte '?' then
      match cutBefore? (bytes "?>") [] rest with
      | some (content, later) =>
        let s := match (bytes "xml").isPrefixOf content, content.drop 3 with
          | true, c :: declaration => if isSpace c then s.declare declaration else s
          | _, _ => s
        ([], s.continueAt later)
      | none => stop s
    else
      match cutTag? none [] text with
      | some (content, later) => (startTag s.charset content, s.continueAt later)
      | none => stop s

/-- Reads behind an ampersand. -/
private def reference (s : Source) (text : List UInt8) : List Event × Source :=
  let (name, rest) := text.span fun b => b != byte ';' && b != byte '&' && b != byte '<'
  match rest with
  | b :: later =>
    if b == byte ';' then
      let event := match s.charset.decode? name with
        | some name => resolve name
        | none => .fault
      ([event], s.continueAt later)
    else ([.fault], s.continueAt rest)
  | [] => stop s

private def readFrom : (fuel : Nat) → Source → List Event
  | 0, _ => []
  | fuel + 1, s =>
    match s.rest with
    | [] => []
    | b :: rest =>
      if b == byte '<' then
        let (events, s) := markup s rest
        events ++ readFrom fuel s
      else if b == byte '&' then
        let (events, s) := reference s rest
        events ++ readFrom fuel s
      else
        let (text, rest) := s.rest.span fun b => b != byte '<' && b != byte '&'
        let event := match s.charset.decode? text with
          | some text => .text text
          | none => .fault
        event :: readFrom fuel (s.continueAt rest)

/-- The document without its byte order mark, in the character set that the mark shows. -/
private def Source.ofBytes : List UInt8 → Source
  | 0xEF :: 0xBB :: 0xBF :: rest => ⟨.utf8, false, rest⟩
  | 0xFF :: 0xFE :: rest => ⟨.utf16 false, false, rest⟩
  | 0xFE :: 0xFF :: rest => ⟨.utf16 true, false, rest⟩
  | rest => ⟨.utf8, false, rest⟩

/-- All events of a document. -/
def events (document : List UInt8) : List Event :=
  readFrom (document.length + 1) (Source.ofBytes document)

end Harvest.Markup
