/-!
Blank characters and the words between them. `collapse` writes the words of a text with single
spaces between them; a text that is its own collapse is called tidy.
-/

namespace Harvest.Text

/-- The characters with Unicode's property `White_Space`. -/
def isBlank (c : Char) : Bool :=
  let n := c.toNat
  (9 ≤ n && n ≤ 13) || n == 0x20 || n == 0x85 || n == 0xA0 || n == 0x1680 ||
    (0x2000 ≤ n && n ≤ 0x200A) || n == 0x2028 || n == 0x2029 || n == 0x202F || n == 0x205F ||
    n == 0x3000

/-- Splits off the words of a text, the first of them starting with `pending` reversed. -/
def wordsFrom (pending : List Char) : List Char → List (List Char)
  | [] => if pending.isEmpty then [] else [pending.reverse]
  | c :: rest =>
    if isBlank c then
      if pending.isEmpty then wordsFrom [] rest else pending.reverse :: wordsFrom [] rest
    else wordsFrom (c :: pending) rest

/-- The words of a text: its longest stretches without a blank, in order. -/
def words (text : List Char) : List (List Char) := wordsFrom [] text

/-- Words in order, with one space between neighbours. -/
def joinWords : List (List Char) → List Char
  | [] => []
  | [word] => word
  | word :: rest => word ++ ' ' :: joinWords rest

/-- The words of a text with single spaces between them. -/
def collapse (text : String) : String := String.ofList (joinWords (words text.toList))

/-- A text without blanks at its ends and with single spaces between its words. -/
def Tidy (text : String) : Prop := collapse text = text

def trimStart (text : List Char) : List Char := text.dropWhile isBlank

def trimEnd (text : List Char) : List Char := (text.reverse.dropWhile isBlank).reverse

/-- A text without the blanks at its ends. -/
def trim (text : String) : String := String.ofList (trimEnd (trimStart text.toList))

/-- Nothing but blanks. -/
def isBlankText (text : String) : Bool := text.toList.all isBlank

/-- The trimmed text, unless nothing is left of it. -/
def trimmed? (text : String) : Option String :=
  let rest := trim text
  if rest.isEmpty then none else some rest

def lowerAscii (c : Char) : Char :=
  if 'A' ≤ c ∧ c ≤ 'Z' then Char.ofNat (c.toNat + 32) else c

def lowerAsciiText (text : String) : String := String.ofList (text.toList.map lowerAscii)

/-- Says whether `part` occurs in a text. -/
def containsText (part : List Char) : List Char → Bool
  | [] => part.isEmpty
  | text@(_ :: rest) => part.isPrefixOf text || containsText part rest

end Harvest.Text
