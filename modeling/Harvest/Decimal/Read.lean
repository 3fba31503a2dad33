import Harvest.Decimal.Binary
import Harvest.Text.Blank

/-!
Reading a double from text: an optional sign, then digits with an optional point and an optional
exponent, or the name of an infinity or of the value that is not a number.
-/

namespace Harvest.Decimal

def isDigit (c : Char) : Bool := '0' ≤ c && c ≤ '9'

def digitValue (c : Char) : Nat := c.toNat - '0'.toNat

/-- The number that decimal digits write. -/
def ofDigits (digits : List Char) : Nat := digits.foldl (fun n c => n * 10 + digitValue c) 0

/-- A text without its sign, and whether that was a minus. -/
def splitSign : List Char → Bool × List Char
  | '-' :: rest => (true, rest)
  | '+' :: rest => (false, rest)
  | text => (false, text)

/-- The exponent part of a number, absent or complete. -/
private def readExponent : List Char → Option Int
  | [] => some 0
  | c :: rest =>
    if c == 'e' || c == 'E' then
      let (negative, digits) := splitSign rest
      if digits.isEmpty || !digits.all isDigit then none
      else some (if negative then -(ofDigits digits : Int) else ofDigits digits)
    else none

private def readMagnitude (negative : Bool) (text : List Char) : Option Float :=
  let name := text.map Text.lowerAscii
  if name == "inf".toList || name == "infinity".toList then
    some (if negative then -(1.0 / 0.0) else 1.0 / 0.0)
  else if name == "nan".toList then some (0.0 / 0.0)
  else
    let whole := text.takeWhile isDigit
    let rest := text.dropWhile isDigit
    let (fraction, rest) := match rest with
      | '.' :: rest => (rest.takeWhile isDigit, rest.dropWhile isDigit)
      | rest => ([], rest)
    if whole.isEmpty && fraction.isEmpty then none
    else (readExponent rest).map fun e =>
      nearest negative (ofDigits (whole ++ fraction)) (e - fraction.length)

/-- The double a text writes, the nearest one if its value has too many digits. -/
def read? (text : String) : Option Float :=
  let (negative, rest) := splitSign text.toList
  readMagnitude negative rest

end Harvest.Decimal
