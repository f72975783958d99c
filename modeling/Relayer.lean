import Relayer.Primitives
import Relayer.Clients
import Relayer.Accounting
import Relayer.RunningBalances
import Relayer.RepaymentSelection
import Relayer.RepaymentSelectionProofs
import Relayer.Rebalancing
import Relayer.ExcessWithdrawal
import Relayer.Redenomination
import Relayer.Reservations
import Relayer.Lifecycle
import Relayer.RepaymentSafety
import Relayer.PostRelayAllocation
import Relayer.Profitability
import Relayer.RepaymentOrder
import Relayer.LineaWethBridge
import Relayer.RebalancePass
import Relayer.ProfitState
import Relayer.ProfitRuns
import Relayer.Adapters
