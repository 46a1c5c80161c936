import Nlos.Consensus.SnapshotRoundTrip
import Nlos.Consensus.Verdicts
import Nlos.Consensus.Fencing
import Nlos.Consensus.CommitStream
import Nlos.Consensus.Replies
import Nlos.Consensus.PreVote
import Nlos.Consensus.Reads
import Nlos.Consensus.Delivery
import Nlos.Task.Receipts
import Nlos.Task.Publication
import Nlos.Task.LeaseFence
import Nlos.Task.Cancellation
import Nlos.Lease.Migration
import Nlos.Lease.CloseReceipt
import Nlos.Canonical.Preimage
import Nlos.Capability.Revocation
import Nlos.Semantic.MergeOrder
import Nlos.Semantic.CheckpointOrder
import Nlos.Resource.TokenAccounting
import Nlos.Gateway.Interrupted
import Nlos.Fanout.Balanced
import Nlos.Fanout.Queue
import Nlos.Outbox.Consumer
import Nlos.Cell.FailureDetector
import Nlos.Net.Unavailable
