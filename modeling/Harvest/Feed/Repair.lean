import Harvest.Text.Blank
import Harvest.Text.Utf8

/-!
Repair of feeds that somebody wrote by hand: bare ampersands are escaped, and whatever stands in
front of the document is dropped.
-/

namespace Harvest.Feed

private def isHexDigit (c : Char) : Bool :=
  ('0' ≤ c && c ≤ '9') || ('a' ≤ c && c ≤ 'f') || ('A' ≤ c && c ≤ 'F')

private def isDigit (c : Char) : Bool := '0' ≤ c && c ≤ '9'

private def isLetter (c : Char) : Bool := ('a' ≤ c && c ≤ 'z') || ('A' ≤ c && c ≤ 'Z')

/-- The names between an ampersand and a semicolon that make a reference. -/
def isReferenceName : List Char → Bool
  | '#' :: 'x' :: digits => !digits.isEmpty && digits.all isHexDigit
  | '#' :: 'X' :: digits => !digits.isEmpty && digits.all isHexDigit
  | '#' :: digits => !digits.isEmpty && digits.all isDigit
  | c :: rest => isLetter c && rest.all fun c => isLetter c || isDigit c
  | [] => false

/-- Whether what stands behind an ampersand makes it a reference. -/
def startsReference (rest : List Char) : Bool :=
  match rest.span (· != ';') with
  | (name, _ :: _) => isReferenceName name
  | (_, []) => false

/-- Escapes each ampersand that starts no reference. -/
def escapeBare : List Char → List Char
  | [] => []
  | c :: rest =>
    if c = '&' && !startsReference rest then
      '&' :: 'a' :: 'm' :: 'p' :: ';' :: escapeBare rest
    else c :: escapeBare rest

def byteOrderMark : Char := Char.ofNat 0xFEFF

/-- A text without the byte order marks and then the blanks in front of it. -/
def dropLead (text : List Char) : List Char :=
  Text.trimStart (text.dropWhile (· == byteOrderMark))

/-- The repaired bytes of a document. -/
def repair (document : List UInt8) : List UInt8 :=
  Text.Utf8.encode (escapeBare (dropLead (Text.Utf8.decodeLossy document)))

end Harvest.Feed
