import Harvest.Text.Direction
import Harvest.Text.Joining
import Harvest.Text.Normal
import Harvest.Text.Utf8
import Harvest.Url.Idna.Mapping
import Harvest.Url.Punycode

/-!
Host names in ASCII. Each character is mapped, the whole is composed, and each label is checked and
written in ASCII. Hyphens and the lengths of labels are not restricted.
-/

namespace Harvest.Url.Idna

/-- ASCII characters that no host name holds. -/
def isForbidden (c : Char) : Bool :=
  c.toNat ≤ 32 || c.toNat == 127 || "#/:<>?@[\\]^|%".toList.contains c

def isAscii (c : Char) : Bool := c.toNat < 128

/-- The parts of a text between points. -/
def splitLabels : List Char → List (List Char)
  | [] => [[]]
  | c :: rest =>
    match splitLabels rest with
    | [] => [[c]]
    | label :: labels => if c == '.' then [] :: label :: labels else (c :: label) :: labels

def joinLabels : List (List Char) → List Char
  | [] => []
  | [label] => label
  | label :: rest => label ++ '.' :: joinLabels rest

/-- Replaces and drops characters; none if one is refused. -/
def mapChars : List Char → Option (List Char)
  | [] => some []
  | c :: rest => do
    let rest ← mapChars rest
    match Mapping.of c with
    | .keep => some (c :: rest)
    | .replace by_ => some (by_ ++ rest)
    | .drop => some rest
    | .refuse => none

def staysItself (c : Char) : Bool :=
  match Mapping.of c with
  | .keep => true
  | _ => false

/-- Whether letters on both sides join across a non-joiner. -/
private def joinsAcross (before after : List Char) : Bool :=
  let left := (before.map Text.Joining.of).dropWhile (· == .transparent)
  let right := (after.map Text.Joining.of).dropWhile (· == .transparent)
  (left.head? == some .left || left.head? == some .both) &&
    (right.head? == some .right || right.head? == some .both)

/-- Joiners stand behind a virama, or a non-joiner between letters that join. `before` is reversed. -/
private def joinersFit (before : List Char) : List Char → Bool
  | [] => true
  | c :: rest =>
    let behindVirama := match before with
      | b :: _ => Text.Normal.combiningClass b == 9
      | [] => false
    let fits :=
      if c.toNat == 0x200D then behindVirama
      else if c.toNat == 0x200C then behindVirama || joinsAcross before rest
      else true
    fits && joinersFit (c :: before) rest

/-- Rules for a label: it is composed, no mark stands in front, and each character stays itself. -/
def isValidLabel (label : List Char) : Bool :=
  Text.Normal.compose label == label && !label.head?.any Text.isMark && label.all staysItself &&
    joinersFit [] label

/-- What stands in front of an encoded label. -/
def encodedMark : List Char := ['x', 'n', '-', '-']

/-- A label with its encoding undone. Only labels outside ASCII are encoded. -/
def readLabel (label : List Char) : Option (List Char) :=
  if encodedMark.isPrefixOf label then
    (Punycode.decode? (label.drop encodedMark.length)).filter fun plain => !plain.all isAscii && isValidLabel plain
  else if isValidLabel label then some label
  else none

def isRightward (c : Char) : Bool :=
  match Text.Direction.of c with
  | .right | .arabicLetter | .arabicNumber => true
  | _ => false

private def lastOf (label : List Text.Direction) : Option Text.Direction :=
  (label.reverse.dropWhile (· == .nonspacingMark)).head?

/-- The rule for labels of a name that holds letters written from the right. -/
def directionFits (label : List Char) : Bool :=
  let classes := label.map Text.Direction.of
  let neutral (d : Text.Direction) : Bool :=
    d == .europeanSeparator || d == .commonSeparator || d == .europeanTerminator ||
      d == .otherNeutral || d == .boundaryNeutral || d == .nonspacingMark || d == .europeanNumber
  match classes.head? with
  | none => true
  | some .left =>
    classes.all (fun d => d == .left || neutral d) &&
      (lastOf classes == some .left || lastOf classes == some .europeanNumber)
  | some first =>
    (first == .right || first == .arabicLetter) &&
      classes.all (fun d => d == .right || d == .arabicLetter || d == .arabicNumber || neutral d) &&
      (match lastOf classes with
        | some .right | some .arabicLetter | some .europeanNumber | some .arabicNumber => true
        | _ => false) &&
      !(classes.contains .europeanNumber && classes.contains .arabicNumber)

def writeLabel (label : List Char) : List Char :=
  if label.all isAscii then label else encodedMark ++ Punycode.encode label

/-- A name whose labels are all plain ASCII needs lower case only. -/
def isPlain (name : List Char) : Bool :=
  name.all isAscii && (splitLabels name).all fun label => !encodedMark.isPrefixOf label

/-- The ASCII form of a host name, if it has one. -/
def toAscii (name : List Char) : Option (List Char) :=
  let lower := name.map Text.lowerAscii
  if isPlain lower then
    if lower.any isForbidden then none else some lower
  else do
    let mapped ← mapChars name
    let labels ← (splitLabels (Text.Normal.compose mapped)).mapM readLabel
    if labels.any (·.any isRightward) && !labels.all directionFits then none
    else
      let ascii := joinLabels (labels.map writeLabel)
      if ascii.any isForbidden then none else some ascii

/-- The ASCII form of a host name given in bytes. -/
def ofBytes (name : List UInt8) : Option (List Char) := do toAscii (← Text.Utf8.decode? name)

end Harvest.Url.Idna
