import Pr0xteus.Proof.Releases
import Pr0xteus.Proof.Clearing
import Pr0xteus.Proof.IdleReap
import Pr0xteus.Proof.Health
import Pr0xteus.Proof.Rotation
import Pr0xteus.Proof.Shutdown
import Pr0xteus.Proof.Quiescence
import Pr0xteus.Proof.OneHop
import Pr0xteus.Proof.FailureCache
import Pr0xteus.Proof.FailureHistory
import Pr0xteus.Proof.Exclusion
import Pr0xteus.Proof.Bootstrap
import Pr0xteus.Proof.Reinit
import Pr0xteus.Proof.Attachment
import Pr0xteus.Proof.Headers
import Pr0xteus.Proof.TunnelClose
import Pr0xteus.Proof.GatewayConn
import Pr0xteus.Proof.Hops
import Pr0xteus.Proof.Fleet
import Pr0xteus.Proof.Wire
import Pr0xteus.Proof.LiveConnections
import Pr0xteus.Proof.Resolver
import Pr0xteus.Proof.Staircase
import Pr0xteus.Proof.PreflightOutcome
import Pr0xteus.Proof.PoolStartup
import Pr0xteus.Proof.Cancellation
import Pr0xteus.Proof.RetryBudget
import Pr0xteus.Proof.Lifecycle
import Pr0xteus.Proof.StopError
import Pr0xteus.Proof.Collections
import Pr0xteus.Proof.ContainerNames
import Pr0xteus.Proof.Panics
