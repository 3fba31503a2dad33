import Harvest.Store.Error
import Harvest.Time.Rfc3339

/-!
Columns of stored rows and their meaning. Timestamps are stored as text; what cannot be read names
its column by position.
-/

namespace Harvest.Store.Column

/-- The instant stored in a column. -/
def instant (index : Nat) (text : String) : Except Error Instant :=
  match Rfc3339.parse? text with
  | some t => .ok t
  | none => .error (.conversion index ("invalid timestamp: " ++ text))

/-- The instant stored in a column that may be empty. -/
def optionalInstant (index : Nat) : Option String → Except Error (Option Instant)
  | none => .ok none
  | some text => (instant index text).map some

/-- The count stored in a column, which has 32 bits. A number beyond 63 bits is stored as a double. -/
def count (index : Nat) (name : String) (n : Int) : Except Error Nat :=
  if Nat.pow 2 63 ≤ n then
    .error (.engine ("Invalid column type Real at index: " ++ toString index ++ ", name: " ++ name))
  else if 0 ≤ n ∧ n < Nat.pow 2 32 then .ok n.toNat
  else .error (.engine ("Integer " ++ toString n ++ " out of range at index " ++ toString index))

end Harvest.Store.Column
