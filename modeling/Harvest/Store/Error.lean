/-!
Ways a store operation can fail.
-/

namespace Harvest.Store

inductive Error where
  | database (reason : String)
  | sourceNotFound (what : String)
  | itemNotFound (id : Int)
  | conflict (reason : String)
  | serialization (reason : String)
  /-- A refusal of the database engine. -/
  | engine (reason : String)
  /-- A stored text that means nothing in its column. -/
  | conversion (column : Nat) (reason : String)
  deriving DecidableEq

namespace Error

/-- What is wrong with a text in a column. -/
def conversionText (column : Nat) (reason : String) : String :=
  "Conversion error from type Text at index: " ++ toString column ++ ", " ++ reason

def message : Error → String
  | database reason => "Database error: " ++ reason
  | sourceNotFound what => "Source not found: " ++ what
  | itemNotFound id => "Item not found: " ++ toString id
  | conflict reason => "Conflict: " ++ reason
  | serialization reason => "Serialization error: " ++ reason
  | engine reason => "SQLite error: " ++ reason
  | conversion column reason => "SQLite error: " ++ conversionText column reason

def isConflict : Error → Bool
  | conflict _ => true
  | _ => false

/-- The texts of the errors behind an error, the nearest first. -/
def causes : Error → List String
  | engine reason => [reason]
  | conversion column reason => [conversionText column reason, reason]
  | _ => []

end Error

end Harvest.Store
