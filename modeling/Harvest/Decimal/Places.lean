import Harvest.Decimal.Shortest

/-!
A double with a fixed count of decimal places. The exact value is rounded once, a half to the even
neighbour.
-/

namespace Harvest.Decimal

/-- A double rounded to `places` decimals: `fixed 1 1.25` is `1.2`. -/
def fixed (places : Nat) (x : Float) : String :=
  match classify x with
  | .finite b =>
    let scaled := divideRound (b.numerator * Nat.pow 10 places) b.denominator
    let text := toString scaled
    let text := String.ofList (List.replicate (places + 1 - text.length) '0') ++ text
    let whole := text.length - places
    (if b.negative then "-" else "") ++ String.ofList (text.toList.take whole) ++
      (if places == 0 then "" else "." ++ String.ofList (text.toList.drop whole))
  | _ => plain x

end Harvest.Decimal
