import Harvest.Html.CharRef.Names

/-!
Character references: numbers, and names of which the longest that fits counts.
-/

namespace Harvest.Html.CharRef

private def hexValue? (c : Char) : Option Nat :=
  if '0' ≤ c && c ≤ '9' then some (c.toNat - 48)
  else if 'a' ≤ c && c ≤ 'f' then some (c.toNat - 87)
  else if 'A' ≤ c && c ≤ 'F' then some (c.toNat - 55)
  else none

/-- Splits at each of a character. -/
private def cut (mark : Char) : List Char → List (List Char)
  | [] => [[]]
  | c :: rest =>
    match cut mark rest with
    | [] => [[c]]
    | part :: parts => if c == mark then [] :: part :: parts else (c :: part) :: parts

private def readRow (row : List Char) : String × List Char :=
  let value := (row.dropWhile (· != '=')).drop 1
  (String.ofList (row.takeWhile (· != '=')),
    (cut '.' value).map fun digits =>
      Char.ofNat (digits.foldl (fun n c => n * 16 + (hexValue? c).getD 0) 0))

/-- All names in order, with what they stand for. -/
def names : Array (String × List Char) :=
  (nameRows.flatMap fun line => (cut ' ' line.toList).map readRow).toArray

private def search (name : String) (low high : Nat) : (fuel : Nat) → Option (List Char)
  | 0 => none
  | fuel + 1 =>
    if high ≤ low then none
    else
      let middle := (low + high) / 2
      match names[middle]? with
      | none => none
      | some (n, value) =>
        if n == name then some value
        else if n < name then search name (middle + 1) high fuel
        else search name low middle fuel

/-- What a name stands for; names end with a semicolon or, for a few, without. -/
def named? (name : List Char) : Option (List Char) :=
  search (String.ofList name) 0 names.size names.size

private def isNameChar (c : Char) : Bool :=
  ('0' ≤ c && c ≤ '9') || ('a' ≤ c && c ≤ 'z') || ('A' ≤ c && c ≤ 'Z')

/-- The longest start of `name` of at most `length` characters that is a name. -/
private def longest (name : List Char) : (length : Nat) → Option (Nat × List Char)
  | 0 => none
  | length + 1 =>
    match named? (name.take (length + 1)) with
    | some value => some (length + 1, value)
    | none => longest name length

/-- Characters that an old encoding had between 128 and 159. -/
private def legacy : List Nat :=
  [0x20AC, 0x81, 0x201A, 0x192, 0x201E, 0x2026, 0x2020, 0x2021, 0x2C6, 0x2030, 0x160, 0x2039,
   0x152, 0x8D, 0x17D, 0x8F, 0x90, 0x2018, 0x2019, 0x201C, 0x201D, 0x2022, 0x2013, 0x2014, 0x2DC,
   0x2122, 0x161, 0x203A, 0x153, 0x9D, 0x17E, 0x178]

private def ofNumber (n : Nat) : Char :=
  if n == 0 || 0x10FFFF < n || (0xD800 ≤ n && n < 0xE000) then Char.ofNat 0xFFFD
  else if 0x80 ≤ n && n < 0xA0 then Char.ofNat (legacy.getD (n - 0x80) n)
  else Char.ofNat n

private def readNumber (base : Nat) (text : List Char) : Option (List Char × List Char) :=
  let isDigit (c : Char) : Bool := (hexValue? c).any (· < base)
  let digits := text.takeWhile isDigit
  if digits.isEmpty then none
  else
    let n := digits.foldl (fun n c => min 0x110000 (n * base + (hexValue? c).getD 0)) 0
    let rest := text.dropWhile isDigit
    some ([ofNumber n], if rest.head? == some ';' then rest.drop 1 else rest)

private def readName (inAttribute : Bool) (text : List Char) : Option (List Char × List Char) :=
  let name := (text.take 40).takeWhile isNameChar
  let name := if (text.drop name.length).head? == some ';' then name ++ [';'] else name
  match longest name name.length with
  | none => none
  | some (length, value) =>
    let rest := text.drop length
    let ends := (text.take length).getLast? == some ';'
    if inAttribute && !ends && rest.head?.any (fun c => c == '=' || isNameChar c) then none
    else some (value, rest)

/-- Reads what follows an ampersand: the characters meant and the rest, if it is a reference. -/
def read (inAttribute : Bool) : List Char → Option (List Char × List Char)
  | '#' :: 'x' :: rest | '#' :: 'X' :: rest => readNumber 16 rest
  | '#' :: rest => readNumber 10 rest
  | text => readName inAttribute text

end Harvest.Html.CharRef
