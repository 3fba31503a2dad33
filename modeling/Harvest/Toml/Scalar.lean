import Harvest.Decimal.Read
import Harvest.Toml.Value

/-!
Strings, numbers, dates and times of TOML. Every reader gives what is left of the text, or nothing if
the text does not begin with what it reads.
-/

namespace Harvest.Toml

open Decimal (isDigit ofDigits)

def isBlank (c : Char) : Bool := c == ' ' || c == '\t'

def skipBlanks (text : List Char) : List Char := text.dropWhile isBlank

/-- The characters that stand for themselves in strings and comments. -/
def isPlain (c : Char) : Bool := c == '\t' || (32 ≤ c.toNat && c.toNat != 127)

/-- Splits off the end of a line. -/
def newline? : List Char → Option (List Char)
  | '\n' :: rest => some rest
  | '\r' :: '\n' :: rest => some rest
  | _ => none

private def hexDigit? (c : Char) : Option Nat :=
  if isDigit c then some (c.toNat - 48)
  else if 'a' ≤ c && c ≤ 'f' then some (c.toNat - 87)
  else if 'A' ≤ c && c ≤ 'F' then some (c.toNat - 55)
  else none

/-- The character with a code of some number of hexadecimal digits. -/
private def coded (count : Nat) (text : List Char) : Option (Char × List Char) := do
  let digits ← (text.take count).mapM hexDigit?
  let code := digits.foldl (fun n d => n * 16 + d) 0
  if digits.length = count && code.isValidChar then some (Char.ofNat code, text.drop count)
  else none

/-- Reads behind a backslash. -/
private def escape : List Char → Option (Char × List Char)
  | 'b' :: rest => some (Char.ofNat 8, rest)
  | 't' :: rest => some ('\t', rest)
  | 'n' :: rest => some ('\n', rest)
  | 'f' :: rest => some (Char.ofNat 12, rest)
  | 'r' :: rest => some ('\r', rest)
  | '"' :: rest => some ('"', rest)
  | '\\' :: rest => some ('\\', rest)
  | 'u' :: rest => coded 4 rest
  | 'U' :: rest => coded 8 rest
  | _ => none

private def basic (done : List Char) : (fuel : Nat) → List Char → Option (String × List Char)
  | 0, _ => none
  | fuel + 1, text =>
    match text with
    | '"' :: rest => some (String.ofList done.reverse, rest)
    | '\\' :: rest => do
      let (c, rest) ← escape rest
      basic (c :: done) fuel rest
    | c :: rest => if isPlain c then basic (c :: done) fuel rest else none
    | [] => none

private def literal (quote : Char) (done : List Char) : List Char → Option (String × List Char)
  | [] => none
  | c :: rest =>
    if c == quote then some (String.ofList done.reverse, rest)
    else if isPlain c then literal quote (c :: done) rest
    else none

/-- The line ends and blanks behind a backslash at the end of a line. -/
private def lineBreak? (text : List Char) : Option (List Char) := do
  let rest ← newline? (skipBlanks text)
  some (rest.dropWhile fun c => isBlank c || c == '\n' || c == '\r')

/-- Reads a string of several lines. The last five of a run of quotes are two of the string's own and
the three that end it. -/
private def lines (quote : Char) (done : List Char) :
    (fuel : Nat) → List Char → Option (String × List Char)
  | 0, _ => none
  | fuel + 1, text =>
    match text with
    | [] => none
    | c :: rest =>
      if c == quote then
        let count := min (text.takeWhile (· == quote)).length 5
        if count < 3 then lines quote (quote :: done) fuel rest
        else some (String.ofList (done.reverse ++ List.replicate (count - 3) quote), text.drop count)
      else match newline? text with
        | some rest => lines quote ('\n' :: done) fuel rest
        | none =>
          if c == '\\' && quote == '"' then
            match lineBreak? rest with
            | some rest => lines quote done fuel rest
            | none => do
              let (c, rest) ← escape rest
              lines quote (c :: done) fuel rest
          else if isPlain c then lines quote (c :: done) fuel rest
          else none

private def afterNewline (text : List Char) : List Char := (newline? text).getD text

def apostrophe : Char := Char.ofNat 39

/-- A string within one line, as keys may be. -/
def lineString? (text : List Char) : Option (String × List Char) :=
  match text with
  | c :: rest =>
    if c == '"' then basic [] (rest.length + 1) rest
    else if c == apostrophe then literal apostrophe [] rest
    else none
  | [] => none

def string? (text : List Char) : Option (String × List Char) :=
  match text with
  | a :: b :: c :: rest =>
    if a == b && b == c && (a == '"' || a == apostrophe) then
      lines a [] (rest.length + 1) (afterNewline rest)
    else lineString? text
  | _ => lineString? text

/-- Digits with single underscores between them. -/
private def moreDigits (isIn : Char → Bool) (done : List Char) :
    List Char → Option (List Char × List Char)
  | [] => some (done.reverse, [])
  | c :: rest =>
    if isIn c then moreDigits isIn (c :: done) rest
    else if c == '_' then
      match rest with
      | d :: _ => if isIn d then moreDigits isIn done rest else none
      | [] => none
    else some (done.reverse, c :: rest)

private def digits? (isIn : Char → Bool) : List Char → Option (List Char × List Char)
  | c :: rest => if isIn c then moreDigits isIn [c] rest else none
  | [] => none

private def fits (n : Int) : Bool := -(Nat.pow 2 63 : Int) ≤ n && n < (Nat.pow 2 63 : Int)

private def based (base : Nat) (text : List Char) : Option (Value × List Char) := do
  let isIn (c : Char) : Bool := match hexDigit? c with
    | some d => d < base
    | none => false
  let (digits, rest) ← digits? isIn text
  let n := digits.foldl (fun n c => n * base + (hexDigit? c).getD 0) 0
  if fits n then some (.int n, rest) else none

/-- The exponent of a number as written, which may be missing. -/
private def exponent (text : List Char) : Option (List Char × List Char) :=
  match text with
  | c :: rest =>
    if c == 'e' || c == 'E' then
      match rest with
      | s :: later =>
        if s == '+' || s == '-' then do
          let (digits, later) ← digits? isDigit later
          some ('e' :: s :: digits, later)
        else do
          let (digits, later) ← digits? isDigit rest
          some ('e' :: digits, later)
      | [] => none
    else some ([], text)
  | [] => some ([], [])

private def isInfinite (x : Float) : Bool := x == 1 / 0

private def real? (text : List Char) (rest : List Char) : Option (Value × List Char) := do
  let x ← Decimal.read? (String.ofList text)
  if isInfinite x then none else some (.real x, rest)

private def special? (isNegative : Bool) (text : List Char) : Option (Value × List Char) :=
  match text with
  | 'i' :: 'n' :: 'f' :: rest => some (.real (if isNegative then -1 / 0 else 1 / 0), rest)
  | 'n' :: 'a' :: 'n' :: rest => some (.real (0 / 0), rest)
  | _ => none

/-- Reads the digits of a number, of which only the number zero starts with a zero. -/
private def whole? (text : List Char) : Option (List Char × List Char) :=
  match text with
  | '0' :: rest => some (['0'], rest)
  | _ => digits? isDigit text

private def decimal? (isNegative : Bool) (text : List Char) : Option (Value × List Char) := do
  let (whole, rest) ← whole? text
  let sign : List Char := if isNegative then ['-'] else []
  match rest with
  | '.' :: later => do
    let (fraction, later) ← digits? isDigit later
    let (power, later) ← exponent later
    real? (sign ++ whole ++ '.' :: fraction ++ power) later
  | _ => do
    let (power, later) ← exponent rest
    if power.isEmpty then
      let n : Int := if isNegative then -(ofDigits whole : Int) else ofDigits whole
      if fits n then some (.int n, later) else none
    else real? (sign ++ whole ++ power) later

def number? (text : List Char) : Option (Value × List Char) :=
  match text with
  | '0' :: 'x' :: rest => based 16 rest
  | '0' :: 'o' :: rest => based 8 rest
  | '0' :: 'b' :: rest => based 2 rest
  | '+' :: rest => (special? false rest).or (decimal? false rest)
  | '-' :: rest => (special? true rest).or (decimal? true rest)
  | _ => (special? false text).or (decimal? false text)

/-- Two digits that write a number in a range. -/
private def two? (low high : Nat) : List Char → Option (List Char × List Char)
  | a :: b :: rest =>
    let n := ofDigits [a, b]
    if isDigit a && isDigit b && low ≤ n && n ≤ high then some ([a, b], rest) else none
  | _ => none

private def char? (c : Char) : List Char → Option (List Char)
  | d :: rest => if c == d then some rest else none
  | [] => none

private def isLeap (year : Nat) : Bool := year % 4 == 0 && (year % 100 != 0 || year % 400 == 0)

private def monthLength (year month : Nat) : Nat :=
  if month == 2 then (if isLeap year then 29 else 28)
  else if [4, 6, 9, 11].contains month then 30
  else 31

private def date? (text : List Char) : Option (List Char × List Char) := do
  let year := text.take 4
  if year.length != 4 || !year.all isDigit then none
  let rest ← char? '-' (text.drop 4)
  let (month, rest) ← two? 1 12 rest
  let rest ← char? '-' rest
  let (day, rest) ← two? 1 (monthLength (ofDigits year) (ofDigits month)) rest
  some (year ++ '-' :: month ++ '-' :: day, rest)

/-- The fraction of a second: at most nine digits of it, without zeros at its end. -/
private def fraction? : List Char → Option (List Char × List Char)
  | '.' :: rest =>
    let digits := rest.takeWhile isDigit
    let kept := ((digits.take 9).reverse.dropWhile (· == '0')).reverse
    if digits.isEmpty then none
    else some (if kept.isEmpty then [] else '.' :: kept, rest.drop digits.length)
  | rest => some ([], rest)

private def time? (text : List Char) : Option (List Char × List Char) := do
  let (hour, rest) ← two? 0 23 text
  let rest ← char? ':' rest
  let (minute, rest) ← two? 0 59 rest
  let rest ← char? ':' rest
  let (second, rest) ← two? 0 60 rest
  let (fraction, rest) ← fraction? rest
  some (hour ++ ':' :: minute ++ ':' :: second ++ fraction, rest)

/-- The offset of a time, which may be missing. No offset is negative zero. -/
private def offset? (text : List Char) : Option (List Char × List Char) :=
  match text with
  | c :: rest =>
    if c == 'Z' || c == 'z' then some (['Z'], rest)
    else if c == '+' || c == '-' then do
      let (hour, rest) ← two? 0 23 rest
      let rest ← char? ':' rest
      let (minute, rest) ← two? 0 59 rest
      let sign := if ofDigits hour == 0 && ofDigits minute == 0 then '+' else c
      some (sign :: hour ++ ':' :: minute, rest)
    else some ([], text)
  | [] => some ([], [])

private def dateTime? (text : List Char) : Option (List Char × List Char) := do
  let (date, rest) ← date? text
  match rest with
  | [] => some (date, [])
  | c :: later =>
    if c == 'T' || c == 't' then do
      let (time, later) ← time? later
      let (offset, later) ← offset? later
      some (date ++ 'T' :: time ++ offset, later)
    else if c == ' ' then
      match time? later with
      | some (time, later) => do
        let (offset, later) ← offset? later
        some (date ++ 'T' :: time ++ offset, later)
      | none => some (date, rest)
    else some (date, rest)

/-- A date, a time, or both. -/
def moment? (text : List Char) : Option (Value × List Char) :=
  ((dateTime? text).or (time? text)).map fun p => (.moment (String.ofList p.1), p.2)

end Harvest.Toml
