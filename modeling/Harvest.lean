import Harvest.Main
import Harvest.Proofs.Collect.Accounting
import Harvest.Proofs.Collect.Bookkeeping
import Harvest.Proofs.Collect.Failure
import Harvest.Proofs.Collect.Independence
import Harvest.Proofs.Collect.Order
import Harvest.Proofs.Collect.Provenance
import Harvest.Proofs.Collect.Reach
import Harvest.Proofs.Collect.Rerun
import Harvest.Proofs.Collect.Separation
import Harvest.Proofs.Collect.Stages
import Harvest.Proofs.Collect.Traffic
import Harvest.Proofs.CommandLine.Selection
import Harvest.Proofs.Config.Acceptance
import Harvest.Proofs.Config.Live
import Harvest.Proofs.Config.Passing
import Harvest.Proofs.Feed.Repair
import Harvest.Proofs.Html.Words
import Harvest.Proofs.Report.Statistics
import Harvest.Proofs.Report.Totals
import Harvest.Proofs.Store.Refresh
import Harvest.Proofs.Store.History
import Harvest.Proofs.Store.Latest
import Harvest.Proofs.Store.Reading
import Harvest.Proofs.Time.Timestamp
import Harvest.Proofs.Url.Spelling
import Harvest.Proofs.Web.Line
import Harvest.Proofs.Web.Retry
import Harvest.Store.Duplicate
import Harvest.Store.Overwrite
import Harvest.Time.MailDate
