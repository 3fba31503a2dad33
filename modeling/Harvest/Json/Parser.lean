import Harvest.Decimal.Read
import Harvest.Json.Basic

/-!
Reading JSON text. Whole numbers that fit 64 bits stay whole; other numbers are their significand
as a double, scaled by a power of ten. Documents nest at most 127 deep.
-/

namespace Harvest.Json

private def isSpace (c : Char) : Bool := c == ' ' || c == '\t' || c == '\n' || c == '\r'

def skipSpace (text : List Char) : List Char := text.dropWhile isSpace

private def hexValue? (c : Char) : Option Nat :=
  if '0' ≤ c && c ≤ '9' then some (c.toNat - 48)
  else if 'a' ≤ c && c ≤ 'f' then some (c.toNat - 87)
  else if 'A' ≤ c && c ≤ 'F' then some (c.toNat - 55)
  else none

private def fourHex : List Char → Option (Nat × List Char)
  | a :: b :: c :: d :: rest => do
    return (((← hexValue? a) * 16 + (← hexValue? b)) * 256 + (← hexValue? c) * 16 + (← hexValue? d),
      rest)
  | _ => none

/-- The character of a `\u` escape, which may need a second one to make a pair. -/
private def readUnit (text : List Char) : Option (Char × List Char) := do
  let (high, rest) ← fourHex text
  if 0xDC00 ≤ high && high < 0xE000 then none
  else if 0xD800 ≤ high && high < 0xDC00 then
    match rest with
    | '\\' :: 'u' :: rest =>
      let (lower, rest) ← fourHex rest
      if 0xDC00 ≤ lower && lower < 0xE000 then
        return (Char.ofNat (0x10000 + (high - 0xD800) * 0x400 + (lower - 0xDC00)), rest)
      else none
    | _ => none
  else return (Char.ofNat high, rest)

private def simpleEscape? : Char → Option Char
  | '"' => some '"'
  | '\\' => some '\\'
  | '/' => some '/'
  | 'b' => some (Char.ofNat 8)
  | 'f' => some (Char.ofNat 12)
  | 'n' => some '\n'
  | 'r' => some '\r'
  | 't' => some '\t'
  | _ => none

/-- Reads the rest of a quoted text. -/
def readQuoted (done : List Char) : (fuel : Nat) → List Char → Option (String × List Char)
  | 0, _ => none
  | _ + 1, [] => none
  | fuel + 1, c :: rest =>
    if c == '"' then some (String.ofList done.reverse, rest)
    else if c.toNat < 32 then none
    else if c == '\\' then
      match rest with
      | 'u' :: rest =>
        match readUnit rest with
        | some (c, rest) => readQuoted (c :: done) fuel rest
        | none => none
      | e :: rest =>
        match simpleEscape? e with
        | some c => readQuoted (c :: done) fuel rest
        | none => none
      | [] => none
    else readQuoted (c :: done) fuel rest

private def maxWord : Nat := Nat.pow 2 64 - 1

/-- The leading digits that fit 64 bits, and how many digits are left over. -/
private def fitWord (value : Nat) : List Char → Nat × List Char
  | [] => (value, [])
  | c :: rest =>
    let next := value * 10 + Decimal.digitValue c
    if maxWord < next then (value, c :: rest) else fitWord next rest

/-- Scales by a power of ten in steps a double can take; too large a number is refused. -/
private def scale (x : Float) (exponent : Int) : (fuel : Nat) → Option Float
  | 0 => some x
  | fuel + 1 =>
    if exponent.natAbs ≤ 308 then
      let power := Decimal.nearest false 1 exponent.natAbs
      let y := if 0 ≤ exponent then x * power else x / power
      if y.isInf then none else some y
    else if x == 0.0 then some x
    else if 0 ≤ exponent then none
    else scale (x / Decimal.nearest false 1 308) (exponent + 308) fuel

private def readReal (negative : Bool) (digits : List Char) (exponent : Int) : Option Json :=
  let (significand, dropped) := fitWord 0 digits
  (scale (Float.ofNat significand) (exponent + dropped.length) 10).map fun x =>
    real (if negative then -x else x)

/-- The digits of a fraction that still fit behind the whole part. -/
private def usedFraction (whole fraction : List Char) : List Char :=
  let (value, dropped) := fitWord 0 whole
  if dropped.isEmpty then
    fraction.take (fraction.length - (fitWord value fraction).2.length)
  else []

private def readNumber (text : List Char) : Option (Json × List Char) := do
  let (negative, text) := match text with
    | '-' :: rest => (true, rest)
    | text => (false, text)
  let whole := text.takeWhile Decimal.isDigit
  let rest := text.dropWhile Decimal.isDigit
  if whole.isEmpty then none
  else if whole.length > 1 && whole.head? == some '0' then none
  else
    let (point, fraction, rest) := match rest with
      | '.' :: rest => (true, rest.takeWhile Decimal.isDigit, rest.dropWhile Decimal.isDigit)
      | rest => (false, [], rest)
    if point && fraction.isEmpty then none
    else
      let used := usedFraction whole fraction
      match rest with
      | c :: after =>
        if c == 'e' || c == 'E' then
          let (down, after) := Decimal.splitSign after
          let digits := after.takeWhile Decimal.isDigit
          if digits.isEmpty then none
          else
            let e : Int := Decimal.ofDigits digits
            let e := if down then -e else e
            return (← readReal negative (whole ++ used) (e - used.length),
              after.dropWhile Decimal.isDigit)
        else readPlain negative point whole used rest
      | [] => readPlain negative point whole used rest
where
  readPlain (negative point : Bool) (whole used rest : List Char) : Option (Json × List Char) := do
    let n := Decimal.ofDigits whole
    if point then return (← readReal negative (whole ++ used) (-(used.length : Int)), rest)
    else if negative then
      if n == 0 then return (real (-0.0), rest)
      else if n ≤ Nat.pow 2 63 then return (int (-(n : Int)), rest)
      else return (← readReal true whole 0, rest)
    else if n ≤ maxWord then return (int n, rest)
    else return (← readReal false whole 0, rest)

private def readWord (word : String) (value : Json) (text : List Char) : Option (Json × List Char) :=
  if word.toList.isPrefixOf text then some (value, text.drop word.length) else none

mutual

/-- Reads one value; `depth` more levels of nesting are allowed. -/
def readValue (depth : Nat) : (fuel : Nat) → List Char → Option (Json × List Char)
  | 0, _ => none
  | fuel + 1, text =>
    match skipSpace text with
    | [] => none
    | 'n' :: rest => readWord "ull" null rest
    | 't' :: rest => readWord "rue" (bool true) rest
    | 'f' :: rest => readWord "alse" (bool false) rest
    | '"' :: rest => (readQuoted [] (rest.length + 1) rest).map fun (s, rest) => (string s, rest)
    | c :: rest =>
      if c == '[' then
        if depth ≤ 1 then none
        else match skipSpace rest with
          | ']' :: rest => some (array [], rest)
          | rest => readItems (depth - 1) [] fuel rest
      else if c.toNat == 0x7b then
        if depth ≤ 1 then none
        else match skipSpace rest with
          | d :: rest =>
            if d.toNat == 0x7d then some (object [], rest)
            else readMembers (depth - 1) [] fuel (d :: rest)
          | [] => none
      else readNumber (c :: rest)

def readItems (depth : Nat) (done : List Json) : (fuel : Nat) → List Char → Option (Json × List Char)
  | 0, _ => none
  | fuel + 1, text =>
    match readValue depth fuel text with
    | none => none
    | some (value, rest) =>
      match skipSpace rest with
      | ',' :: rest => readItems depth (value :: done) fuel rest
      | ']' :: rest => some (array (value :: done).reverse, rest)
      | _ => none

def readMembers (depth : Nat) (done : List (String × Json)) :
    (fuel : Nat) → List Char → Option (Json × List Char)
  | 0, _ => none
  | fuel + 1, text =>
    match skipSpace text with
    | '"' :: rest =>
      match readQuoted [] (rest.length + 1) rest with
      | none => none
      | some (name, rest) =>
        match skipSpace rest with
        | ':' :: rest =>
          match readValue depth fuel rest with
          | none => none
          | some (value, rest) =>
            match skipSpace rest with
            | ',' :: rest => readMembers depth ((name, value) :: done) fuel rest
            | c :: rest =>
              if c.toNat == 0x7d then some (object ((name, value) :: done).reverse, rest) else none
            | [] => none
        | _ => none
    | _ => none

end

/-- The document a text holds, members in the order of the text. -/
def parse? (text : List Char) : Option Json :=
  match readValue 128 (2 * text.length + 2) text with
  | some (value, rest) => if (skipSpace rest).isEmpty then some value else none
  | none => none

end Harvest.Json
