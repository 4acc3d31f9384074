import Aethernet.ValidatorLifecycle.Atomicity
import Aethernet.Node.Replay
import Aethernet.Ocs.VerifiedValue
import Aethernet.Escrow.Attempts
import Aethernet.Settlement.Agreement
import Aethernet.Escrow.Coherence
import Aethernet.Settlement.Collateral
import Aethernet.Ledger.Supply
import Aethernet.ValidatorLifecycle.KeyUniqueness
import Aethernet.ValidatorLifecycle.Permanence
import Aethernet.ValidatorLifecycle.KeyAuthority
import Aethernet.Consensus.Reachability
import Aethernet.Consensus.Finality
import Aethernet.Ocs.Callback
import Aethernet.Recognition.VoteAuthenticity
import Aethernet.Network.PeerIdentity
import Aethernet.Recognition.SettlementAuthority
import Aethernet.Dispatch.PayoutAuthority
import Aethernet.Recognition.WeightBinding
import Aethernet.TaskVerification.VerdictAgreement
import Aethernet.Recognition.LostVotes
import Aethernet.Recognition.EquivocationReports
import Aethernet.TaskVerification.PrematureDispute
import Aethernet.Tasks.Terminal
import Aethernet.Tasks.ApiRules
import Aethernet.Tasks.Convergence
import Aethernet.Auth.ReplaySafety
import Aethernet.Dispatch.ConcurrentOnce
import Aethernet.Dispatch.Deferral
import Aethernet.Dag.TopologicalSort
import Aethernet.Staking.Restart
import Aethernet.Staking.Trust
import Aethernet.Network.FastPath
import Aethernet.Epoch.Counter
