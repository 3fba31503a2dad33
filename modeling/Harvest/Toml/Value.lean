import Harvest.Json.Basic

/-!
Values of TOML documents, and the JSON that carries them. Dates and times are kept as their text.
-/

namespace Harvest.Toml

inductive Value where
  | string (text : String)
  | int (n : Int)
  | real (x : Float)
  | bool (b : Bool)
  | moment (text : String)
  | array (items : List Value)
  | table (entries : List (String × Value))

/-- The one key of the object that stands for a date or a time. -/
def momentKey : String := "$__toml_private_datetime"

mutual

def Value.toJson : Value → Json
  | .string text => .string text
  | .int n => .int n
  | .real x => .real x
  | .bool b => .bool b
  | .moment text => .object [(momentKey, .string text)]
  | .array items => .array (itemsToJson items)
  | .table entries => .object (entriesToJson entries)

def itemsToJson : List Value → List Json
  | [] => []
  | item :: rest => item.toJson :: itemsToJson rest

def entriesToJson : List (String × Value) → List (String × Json)
  | [] => []
  | (key, value) :: rest => (key, value.toJson) :: entriesToJson rest

end

end Harvest.Toml
