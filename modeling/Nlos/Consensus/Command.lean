import Nlos.Lib.ByteReader

/-!
# Control-plane commands

The closed sum of commands that may enter the replicated log: the cell directory, the root lease
pools, the task authority shards and the audit anchors.
-/

namespace Nlos.Consensus

open Lib

abbrev U16 := Word 2
abbrev U32 := Word 4
abbrev U64 := Word 8

abbrev NonZeroU64 := { n : U64 // n ≠ 0 }

abbrev Digest := Word 32
abbrev CellIdentity := Word 16
abbrev ControlDomainId := Word 16
abbrev PrincipalId := Word 16
abbrev QuotaLeaseId := Word 16
abbrev CapacityLeaseId := Word 16
abbrev DeviceId := Word 16
abbrev ExclusiveDeviceLeaseId := Word 16
abbrev TaskId := Word 16
abbrev TaskAuthorityAssignmentId := Word 16
abbrev ReceiptId := Word 16
abbrev IdempotencyKey := Word 16
abbrev Generation := NonZeroU64
abbrev CellEpoch := NonZeroU64
abbrev CellFencingToken := NonZeroU64

/-- An `IP:port` routing hint. An IPv6 address also carries flow information and a scope. -/
inductive SocketAddr where
  | v4 (ip : Word 4) (port : U16)
  | v6 (ip : Word 16) (port : U16) (flowinfo scopeId : U32)
deriving DecidableEq

inductive CommandFamilyCode where
  | cellDirectory
  | rootLeasePool
  | taskAuthorityShard
  | controlPlaneAudit
deriving DecidableEq

def CommandFamilyCode.asU8 : CommandFamilyCode → UInt8
  | .cellDirectory => 1
  | .rootLeasePool => 2
  | .taskAuthorityShard => 3
  | .controlPlaneAudit => 4

inductive CellDirectoryCommand where
  | upsertCellEndpoint (cell : CellIdentity) (controlDomainId : ControlDomainId)
      (principalId : PrincipalId) (nodeBootGeneration : Generation) (epoch : CellEpoch)
      (heartbeatSeq : U64) (endpointHint : Option SocketAddr)
  | advanceTrustPolicyEpoch (newTrustEpoch : U64) (policyDigest : Digest)
  | decommissionCell (cell : CellIdentity) (fencedEpoch : CellEpoch)
deriving DecidableEq

inductive ReplicatedQuotaLeaseDisposition where
  | active
  | closed
  | quarantined
deriving DecidableEq

inductive ReplicatedDeviceHeadState where
  | free
  | active
  | quarantined
deriving DecidableEq

inductive RootLeasePoolCommand where
  | registerQuotaPool (budgetRoot : Word 16) (initialAvailable : U64)
  | allocateQuotaLease (leaseId : QuotaLeaseId) (budgetRoot : Word 16)
      (holderCell : CellIdentity) (nodeBootGeneration : Generation) (faceValue : U64)
      (epoch : CellEpoch) (fencingToken : CellFencingToken) (fenceScope : Word 16)
  | settleOrQuarantineQuotaLease (leaseId : QuotaLeaseId)
      (disposition : ReplicatedQuotaLeaseDisposition) (returnedAmount quarantinedAmount : U64)
      (newEpoch : CellEpoch) (newFencingToken : CellFencingToken)
  | allocateCapacityLease (capacityLeaseId : CapacityLeaseId) (poolId : Word 16)
      (poolTotalCapacity : U64) (targetCell : CellIdentity) (targetBootGeneration : Generation)
      (amount : U64) (capacityEpoch : NonZeroU64) (fencingToken : CellFencingToken)
  | transitionExclusiveDeviceHead (deviceId : DeviceId) (deviceLeaseId : ExclusiveDeviceLeaseId)
      (exclusivityEpoch : NonZeroU64) (holderCell : Option CellIdentity)
      (fencingToken : CellFencingToken) (newState : ReplicatedDeviceHeadState)
      (hasResetZeroizationProof : Bool)
deriving DecidableEq

inductive TaskAuthorityShardCommand where
  | assignInitialAuthority (assignmentId : TaskAuthorityAssignmentId) (taskId : TaskId)
      (taskGeneration : Generation) (authorityShard : Word 16) (homeCell : CellIdentity)
      (authorityTerm : NonZeroU64) (controlEpoch participantRegistryGeneration : U64)
      (participantRegistryRoot : Digest)
  | recordCompletedTakeover (takeoverReceiptId : ReceiptId) (taskId : TaskId)
      (taskGeneration : Generation) (oldAssignmentId newAssignmentId : TaskAuthorityAssignmentId)
      (frozenOldAuthorityTerm newAuthorityTerm : NonZeroU64) (newHomeCell : CellIdentity)
      (newControlEpoch newParticipantRegistryGeneration : U64)
      (newParticipantRegistryRoot exactFenceSetRoot : Digest)
      (outstandingEffectQuarantineRoot : Option Digest)
deriving DecidableEq

inductive ControlPlaneAuditCommand where
  | anchorMigrationIntent (intentId : Word 16) (sourceCell targetCell : CellIdentity)
      (epoch : CellEpoch) (intentDigest : Digest)
  | anchorReconciliationCheckpoint (cell : CellIdentity) (nodeBootGeneration : Generation)
      (epoch : CellEpoch) (checkpointSeq : NonZeroU64) (checkpointDigest : Digest)
deriving DecidableEq

inductive ControlPlaneCommand where
  | cellDirectoryMutation (cmd : CellDirectoryCommand)
  | rootLeasePoolMutation (cmd : RootLeasePoolCommand)
  | taskAuthorityShardMutation (cmd : TaskAuthorityShardCommand)
  | controlPlaneAuditAnchor (cmd : ControlPlaneAuditCommand)
deriving DecidableEq

def ControlPlaneCommand.familyCode : ControlPlaneCommand → CommandFamilyCode
  | .cellDirectoryMutation _ => .cellDirectory
  | .rootLeasePoolMutation _ => .rootLeasePool
  | .taskAuthorityShardMutation _ => .taskAuthorityShard
  | .controlPlaneAuditAnchor _ => .controlPlaneAudit

structure ControlPlaneProposal where
  idempotencyKey : IdempotencyKey
  command : ControlPlaneCommand
deriving DecidableEq

end Nlos.Consensus
