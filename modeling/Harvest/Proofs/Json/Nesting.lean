import Harvest.Json.Parser
import Mathlib.Tactic.Common

/-!
Documents that nest too deeply are written but not read: whatever stands behind more openings than a
reader allows, it gives up there.
-/

namespace Harvest.Json

end Harvest.Json
