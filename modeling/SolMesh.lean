import SolMesh.Protocol.Frame
import SolMesh.Protocol.RoundTrip
import SolMesh.Mesh.Reassembly
import SolMesh.Gateway.RateLimiter
import SolMesh.Gateway.Config
import SolMesh.System.HonestRequest
import SolMesh.Gateway.OneReply
import SolMesh.Foundations.Dict
import SolMesh.Client.LifeCycle
import SolMesh.Client.Results
import SolMesh.Gateway.Broadcasts
import SolMesh.System.Mode3
import SolMesh.System.Replay
import SolMesh.System.Relay
import SolMesh.Gateway.TokenBucket
import SolMesh.Mesh.Robustness
import SolMesh.Protocol.Corruption
import SolMesh.System.Rebroadcast
import SolMesh.System.Acknowledged
import SolMesh.Store.Processes
import SolMesh.Client.Duplicates
import SolMesh.Client.Cancel
import SolMesh.Mesh.Splicing
import SolMesh.Client.Awaiting
import SolMesh.Client.Stranding
import SolMesh.Client.RetryAccounting
import SolMesh.Gateway.TransferCaps
import SolMesh.Store.Terms
import SolMesh.Client.Payments
import SolMesh.Client.Deferred
import SolMesh.Foundations.StableSort
import SolMesh.Client.Attempts
import SolMesh.Store.Atomicity
import SolMesh.Store.LostReads
import SolMesh.Store.AnyContent
import SolMesh.Gateway.ClockSteps
import SolMesh.Protocol.Detection
import SolMesh.System.TokenResolvers
import SolMesh.Wallet.History
import SolMesh.Gateway.Memory
import SolMesh.System.Sharing
import SolMesh.System.Beacons
import SolMesh.Client.Flushers
import SolMesh.System.Isolation
import SolMesh.Protocol.Canonical
import SolMesh.Wallet.Listing
import SolMesh.System.BeaconThread
import SolMesh.System.Outcomes
