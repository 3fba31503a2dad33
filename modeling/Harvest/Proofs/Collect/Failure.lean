import Harvest.Proofs.Collect.Accounting

/-!
Why a run fails. It does so if its feed cannot be had or cannot be read, or if its time runs out; no
entry can bring it down or stop the entries behind it.
-/

namespace Harvest

namespace Web.FetchError

end Web.FetchError

namespace Collect

namespace Job

variable {job : Job} {site : Site} {told : Told}

end Job

end Collect

end Harvest
