import Tubo.Store.Revocations
import Tubo.ExactAuthority.Specification
import Tubo.LocalKey.Agreement
import Tubo.Runtime.Chain
import Tubo.ExactPath.Atomicity
import Tubo.UseCase.Attach
import Tubo.ExactPath.InviteRevocation
import Tubo.UseCase.Bootstrap
import Tubo.Runtime.Expiry
import Tubo.Discovery.Digest
import Tubo.AccessLease.Possession
import Tubo.Discovery.Decoding
import Tubo.Runtime.Sequence
import Tubo.Store.Liveness
import Tubo.UseCase.Access
import Tubo.Runtime.Recovery
import Tubo.Runtime.RunStatus
import Tubo.Runtime.SyncOwner
import Tubo.Node.Identity
import Tubo.Runtime.Pump
import Tubo.Reachability.Bundle
