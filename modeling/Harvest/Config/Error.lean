/-!
Ways a configuration can be unusable.
-/

namespace Harvest.Config

inductive Error where
  | unreadable (reason : String)
  | syntaxError (reason : String)
  | invalid (reason : String)
  | invalidUrl (reason : String)
  deriving DecidableEq

def Error.message : Error → String
  | unreadable reason => "Failed to read config file: " ++ reason
  | syntaxError reason => "Failed to parse TOML: " ++ reason
  | invalid reason => "Validation error: " ++ reason
  | invalidUrl reason => "Invalid URL in config: " ++ reason

end Harvest.Config
