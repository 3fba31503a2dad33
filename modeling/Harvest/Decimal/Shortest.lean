import Harvest.Decimal.Binary

/-!
The shortest decimal that reads back as the same double, and the ways this library writes it:
plainly without an exponent, and as a number of a JSON document.
-/

namespace Harvest.Decimal

/-- The decimal `digits * 10 ^ exponent`. -/
structure Digits where
  digits : Nat
  exponent : Int
  deriving DecidableEq

/-- The reals that round to a given double, as fractions over one denominator. -/
private structure Interval where
  lower : Nat
  value : Nat
  upper : Nat
  denominator : Nat
  closed : Bool

private def Interval.of (b : Binary) : Interval :=
  let unit := Nat.pow 2 b.exponent.toNat
  let below := if b.mantissa == Nat.pow 2 52 && b.exponent != -1074 then 1 else 2
  { lower := (4 * b.mantissa - below) * unit
    value := 4 * b.mantissa * unit
    upper := (4 * b.mantissa + 2) * unit
    denominator := 4 * b.denominator
    closed := b.mantissa % 2 == 0 }

/-- Whether the grid point `d * 10 ^ k` rounds to the double. -/
private def Interval.has (i : Interval) (d : Nat) (k : Int) : Bool :=
  let point := d * Nat.pow 10 k.toNat * i.denominator
  let scale := Nat.pow 10 (-k).toNat
  if i.closed then i.lower * scale ≤ point && point ≤ i.upper * scale
  else i.lower * scale < point && point < i.upper * scale

/-- The count of zeros between the point and the first digit of `num / den < 1`. -/
private def leadingZeros (num den : Nat) : (fuel : Nat) → Nat
  | 0 => 0
  | fuel + 1 => if den ≤ num * 10 then 0 else leadingZeros (num * 10) den fuel + 1

/-- The power of ten just above a fraction. -/
private def decimalPoint (num den : Nat) : Int :=
  if den ≤ num then (Nat.toDigits 10 (num / den)).length
  else -(leadingZeros num den 400 : Int)

/-- Tries the grid of `17 - remaining` digits, then finer ones. -/
private def search (i : Interval) (point : Int) : (remaining : Nat) → Digits
  | 0 => ⟨0, 0⟩
  | remaining + 1 =>
    let k := point - (17 - remaining : Nat)
    let num := i.value * Nat.pow 10 (-k).toNat
    let den := i.denominator * Nat.pow 10 k.toNat
    let d := num / den
    let rest := num % den
    match i.has d k, i.has (d + 1) k with
    | true, false => ⟨d, k⟩
    | false, true => ⟨d + 1, k⟩
    | true, true =>
      if 2 * rest < den || (2 * rest == den && d % 2 == 0) then ⟨d, k⟩ else ⟨d + 1, k⟩
    | false, false => search i point remaining

/-- Moves trailing zeros of the digits into the exponent. -/
private def stripZeros (d : Digits) : (fuel : Nat) → Digits
  | 0 => d
  | fuel + 1 =>
    if d.digits != 0 && d.digits % 10 == 0 then stripZeros ⟨d.digits / 10, d.exponent + 1⟩ fuel
    else d

/-- The fewest digits that read back as the double, the nearest such if there are several. -/
def shortest (b : Binary) : Digits :=
  if b.mantissa == 0 then ⟨0, 0⟩
  else
    let i := Interval.of b
    stripZeros (search i (decimalPoint i.value i.denominator) 17) 20

private def sign (negative : Bool) : String := if negative then "-" else ""

private def zeros (n : Nat) : String := String.ofList (List.replicate n '0')

/-- Digits with a point and no exponent; whole numbers have no point. -/
def Digits.plain (d : Digits) : String :=
  let text := toString d.digits
  if 0 ≤ d.exponent then text ++ zeros d.exponent.toNat
  else
    let places := (-d.exponent).toNat
    if text.length ≤ places then "0." ++ zeros (places - text.length) ++ text
    else
      let whole := text.length - places
      String.ofList (text.toList.take whole) ++ "." ++ String.ofList (text.toList.drop whole)

/-- A double in the fewest digits, never with an exponent: `1`, `0.1`, `-0`, `NaN`, `inf`. -/
def plain (x : Float) : String :=
  match classify x with
  | .finite b => sign b.negative ++ (shortest b).plain
  | .infinite negative => sign negative ++ "inf"
  | .notANumber => "NaN"

/-- Digits in the manner of a data format: a fraction or an exponent is always there. -/
def Digits.tagged (d : Digits) : String :=
  let text := toString d.digits
  let point : Int := text.length + d.exponent
  if 0 ≤ d.exponent && point ≤ 16 then text ++ zeros d.exponent.toNat ++ ".0"
  else if 0 < point && point ≤ 16 then d.plain
  else if -5 < point && point ≤ 0 then d.plain
  else
    let power := point - 1
    let first := String.ofList (text.toList.take 1)
    let rest := String.ofList (text.toList.drop 1)
    first ++ (if rest.isEmpty then "" else "." ++ rest) ++ "e" ++
      (if 0 ≤ power then "+" else "") ++ toString power

/-- A finite double with a fraction or an exponent: `1.0`, `1e+300`, `1e-7`. -/
def tagged (x : Float) : Option String :=
  match classify x with
  | .finite b =>
    some (sign b.negative ++ if b.mantissa == 0 then "0.0" else (shortest b).tagged)
  | _ => none

end Harvest.Decimal
