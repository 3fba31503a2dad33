import Harvest.Toml.Scalar
import Harvest.Toml.Table

/-!
Reading TOML documents. Values lie in each other less than eighty deep.
-/

namespace Harvest.Toml

/-- How deep values and the parts of keys may go. -/
def depthLimit : Nat := 80

private def isBare (c : Char) : Bool :=
  ('a' ≤ c && c ≤ 'z') || ('A' ≤ c && c ≤ 'Z') || Decimal.isDigit c || c == '_' || c == '-'

private def keyPart? (text : List Char) : Option (String × List Char) :=
  match text with
  | c :: _ =>
    if c == '"' || c == apostrophe then lineString? text
    else
      let name := text.takeWhile isBare
      if name.isEmpty then none else some (String.ofList name, text.drop name.length)
  | [] => none

/-- Reads a key of one or more parts, and the blanks around them. -/
private def keyParts? : (fuel : Nat) → List Char → Option (List String × List Char)
  | 0, _ => none
  | fuel + 1, text => do
    let (part, rest) ← keyPart? (skipBlanks text)
    match skipBlanks rest with
    | '.' :: later => do
      let (parts, later) ← keyParts? fuel later
      some (part :: parts, later)
    | rest => some ([part], rest)

private def key? (text : List Char) : Option (List String × List Char) :=
  keyParts? (depthLimit - 1) text

/-- A key as the path to its table and its last part. -/
private def splitKey? (parts : List String) : Option (List String × String) :=
  parts.getLast?.map fun last => (parts.dropLast, last)

/-- Skips a comment, if there is one. -/
private def skipComment? (text : List Char) : Option (List Char) :=
  match text with
  | '#' :: rest =>
    let rest := rest.dropWhile isPlain
    match rest with
    | [] => some []
    | _ => if (newline? rest).isSome then some rest else none
  | _ => some text

/-- Skips blanks, line ends and comments inside an array. -/
private def skipLines? : (fuel : Nat) → List Char → Option (List Char)
  | 0, _ => none
  | fuel + 1, text => do
    let text := skipBlanks text
    match newline? text with
    | some rest => skipLines? fuel rest
    | none =>
      match text with
      | '#' :: _ => skipLines? fuel (← skipComment? text)
      | _ => some text

private def skipAll? (text : List Char) : Option (List Char) := skipLines? (text.length + 1) text

mutual

/-- Reads a value that lies in `depth` others. -/
private def value? (depth : Nat) : (fuel : Nat) → List Char → Option (Value × List Char)
  | 0, _ => none
  | fuel + 1, text =>
    match text with
    | [] => none
    | c :: rest =>
      if c == '"' || c == apostrophe then (string? text).map fun p => (.string p.1, p.2)
      else if c == '[' then
        if depth + 1 < depthLimit then items? (depth + 1) [] fuel rest else none
      else if c.toNat == 123 then
        if depth + 1 < depthLimit then
          match skipBlanks rest with
          | d :: later =>
            if d.toNat == 125 then some (.table [], later) else members? (depth + 1) [] fuel rest
          | [] => none
        else none
      else if c == 't' then
        if "true".toList.isPrefixOf text then some (.bool true, text.drop 4) else none
      else if c == 'f' then
        if "false".toList.isPrefixOf text then some (.bool false, text.drop 5) else none
      else (moment? text).or (number? text)

/-- Reads the rest of an array. -/
private def items? (depth : Nat) (done : List Value) :
    (fuel : Nat) → List Char → Option (Value × List Char)
  | 0, _ => none
  | fuel + 1, text => do
    match ← skipAll? text with
    | ']' :: rest => some (.array done.reverse, rest)
    | text =>
      let (v, rest) ← value? depth fuel text
      match ← skipAll? rest with
      | ',' :: rest => items? depth (v :: done) fuel rest
      | ']' :: rest => some (.array (v :: done).reverse, rest)
      | _ => none

/-- Reads the rest of a table within a line. -/
private def members? (depth : Nat) (done : Entries) :
    (fuel : Nat) → List Char → Option (Value × List Char)
  | 0, _ => none
  | fuel + 1, text => do
    let (parts, rest) ← key? text
    let (path, key) ← splitKey? parts
    match rest with
    | '=' :: rest =>
      let (v, rest) ← value? depth fuel (skipBlanks rest)
      let done ← done.addValue path key v
      match skipBlanks rest with
      | ',' :: rest => members? depth done fuel rest
      | c :: rest => if c.toNat == 125 then some (.table (Entries.toValues done), rest) else none
      | [] => none
    | _ => none

end

/-- Reads up to the end of a line on which nothing but a comment may stand. -/
private def endLine? (text : List Char) : Option (List Char) := do
  let text ← skipComment? (skipBlanks text)
  match text with
  | [] => some []
  | _ => newline? text

/-- Reads a line, or the lines of one value. -/
private def statement? (draft : Draft) (text : List Char) : Option (Draft × List Char) :=
  match text with
  | '[' :: '[' :: rest => do
    let (path, rest) ← key? rest
    match rest with
    | ']' :: ']' :: rest => some (← draft.start true path, ← endLine? rest)
    | _ => none
  | '[' :: rest => do
    let (path, rest) ← key? rest
    match rest with
    | ']' :: rest => some (← draft.start false path, ← endLine? rest)
    | _ => none
  | _ => do
    let (parts, rest) ← key? text
    let (path, key) ← splitKey? parts
    match rest with
    | '=' :: rest =>
      let (v, rest) ← value? 0 (rest.length + 1) (skipBlanks rest)
      some (← draft.addValue path key v, ← endLine? rest)
    | _ => none

private def statements? (draft : Draft) : (fuel : Nat) → List Char → Option Draft
  | 0, _ => none
  | fuel + 1, text => do
    let text ← skipComment? (skipBlanks text)
    match text with
    | [] => some draft
    | _ =>
      match newline? text with
      | some rest => statements? draft fuel rest
      | none => do
        let (draft, rest) ← statement? draft text
        statements? draft fuel rest

private def byteOrderMark : Char := Char.ofNat 0xFEFF

/-- The table of a document, if the document is well formed. -/
def parse? (document : String) : Option (List (String × Value)) := do
  let text := match document.toList with
    | c :: rest => if c == byteOrderMark then rest else c :: rest
    | [] => []
  let draft ← statements? .empty (text.length + 1) text
  some (Entries.toValues (← draft.close))

end Harvest.Toml
