/-!
Punycode: letters outside ASCII as insertions into the ASCII letters of a label, each insertion a
number with digits of a variable base.
-/

namespace Harvest.Url.Punycode

def digitChar (d : Nat) : Char :=
  if d < 26 then Char.ofNat (97 + d) else Char.ofNat (22 + d)

def digitValue? (c : Char) : Option Nat :=
  let n := c.toNat
  if 97 ≤ n && n ≤ 122 then some (n - 97)
  else if 65 ≤ n && n ≤ 90 then some (n - 65)
  else if 48 ≤ n && n ≤ 57 then some (n - 22)
  else none

def threshold (k bias : Nat) : Nat :=
  if k ≤ bias then 1 else if bias + 26 ≤ k then 26 else k - bias

private def adaptLoop (delta k : Nat) : Nat × Nat :=
  if 455 < delta then adaptLoop (delta / 35) (k + 36) else (delta, k)
termination_by delta

/-- The bias for the next number, from the size of the last one. -/
def adapt (delta points : Nat) (isFirst : Bool) : Nat :=
  let delta := if isFirst then delta / 700 else delta / 2
  let (delta, k) := adaptLoop (delta + delta / points) 0
  k + 36 * delta / (delta + 38)

/-- The digits of one number, from the digit of place `k` on. -/
def writeDigits (bias k q : Nat) : (fuel : Nat) → List Char
  | 0 => []
  | fuel + 1 =>
    let t := threshold k bias
    if q < t then [digitChar q]
    else digitChar (t + (q - t) % (36 - t)) :: writeDigits bias (k + 36) ((q - t) / (36 - t)) fuel

def writeNumber (bias q : Nat) : List Char := writeDigits bias 36 q (q + 1)

/-- Where the encoder stands: digits written, latest first, and the state of the numbers. -/
structure Encoder where
  written : List Char
  delta : Nat
  bias : Nat
  handled : Nat

/-- Looks at one letter while the letter `m` is being inserted. -/
def Encoder.visit (basic m : Nat) (e : Encoder) (c : Char) : Encoder :=
  if c.toNat < m then { e with delta := e.delta + 1 }
  else if c.toNat == m then
    { written := (writeNumber e.bias e.delta).reverse ++ e.written
      delta := 0
      bias := adapt e.delta (e.handled + 1) (e.handled == basic)
      handled := e.handled + 1 }
  else e

/-- Inserts the letters at and above `n`, the least first. -/
def encodeFrom (label : List Char) (basic n : Nat) (e : Encoder) : (fuel : Nat) → List Char
  | 0 => e.written.reverse
  | fuel + 1 =>
    match ((label.map Char.toNat).filter (n ≤ ·)).min? with
    | none => e.written.reverse
    | some m =>
      let e := { e with delta := e.delta + (m - n) * (e.handled + 1) }
      let e := label.foldl (Encoder.visit basic m) e
      encodeFrom label basic (m + 1) { e with delta := e.delta + 1 } fuel

/-- A label in ASCII, without a mark that it is encoded. -/
def encode (label : List Char) : List Char :=
  let basic := label.filter (·.toNat < 128)
  basic ++ (if basic.isEmpty then [] else ['-']) ++
    encodeFrom label basic.length 128 ⟨[], 0, 72, basic.length⟩ label.length

/-- Reads one number, from the digit of place `k` on. -/
def readDigits (bias : Nat) (k weight sum : Nat) : List Char → Option (Nat × List Char)
  | [] => none
  | c :: rest =>
    match digitValue? c with
    | none => none
    | some d =>
      let t := threshold k bias
      let sum := sum + d * weight
      if d < t then some (sum, rest) else readDigits bias (k + 36) (weight * (36 - t)) sum rest

def readNumber (bias : Nat) (text : List Char) : Option (Nat × List Char) := readDigits bias 36 1 0 text

/-- Where the decoder stands: the letters so far, the letter inserted last and the place behind it. -/
structure Decoder where
  label : List Char
  letter : Nat
  place : Nat
  bias : Nat

/-- Inserts a letter that is so many steps away: a step goes to the next place, and from the last place to the
first one and the next letter. -/
def Decoder.insert? (d : Decoder) (delta : Nat) : Option Decoder :=
  let points := d.label.length + 1
  let letter := d.letter + (d.place + delta) / points
  let place := (d.place + delta) % points
  if letter < 0x110000 && !(0xD800 ≤ letter && letter < 0xE000) then
    some
      { label := d.label.take place ++ Char.ofNat letter :: d.label.drop place
        letter
        place := place + 1
        bias := adapt delta points (d.place == 0) }
  else none

/-- Inserts the letters that the numbers in a text name. -/
def decodeFrom (d : Decoder) : (fuel : Nat) → List Char → Option (List Char)
  | _, [] => some d.label
  | 0, _ => none
  | fuel + 1, text => do
    let (delta, rest) ← readNumber d.bias text
    decodeFrom (← d.insert? delta) fuel rest

/-- The text before the last hyphen, and what stands behind it. A hyphen in front of all else separates
nothing. -/
def splitLastHyphen (text : List Char) : List Char × List Char :=
  let tail := (text.reverse.takeWhile (· != '-')).reverse
  let basic := text.take (text.length - tail.length - 1)
  (basic, if basic.isEmpty then text else tail)

/-- The label that encoded text stands for. -/
def decode? (text : List Char) : Option (List Char) :=
  let (basic, numbers) := splitLastHyphen text
  if basic.all (·.toNat < 128) then decodeFrom ⟨basic, 128, 0, 72⟩ text.length numbers else none

end Harvest.Url.Punycode
