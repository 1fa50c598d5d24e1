import Mcad.Api.Resource
import Mcad.Api.NodeInfo
import Mcad.Ledger.Effects
import Mcad.Ledger.Accounting
import Mcad.Ledger.Balance
import Mcad.Ledger.RoundTrip
import Mcad.Ledger.Clone
import Mcad.Ledger.Replay
import Mcad.Ledger.Clamp
import Mcad.Ledger.Exact
import Mcad.Go.Float
import Mcad.Go.Text
import Mcad.Quota.Backend
import Mcad.Quota.Designation
import Mcad.Quota.Demands
import Mcad.Quota.Fits
import Mcad.Quota.Replay
import Mcad.Quota.Lifecycle
