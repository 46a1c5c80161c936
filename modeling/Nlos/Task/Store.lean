import Nlos.Lib.Guarded
import Nlos.Lib.Rows
import Nlos.Task.Model

/-!
# The tables of the task authority

The store keeps one table per record kind, each as its rows in insertion order. The operations
of the authority are transactions over these tables: a refused operation changes nothing.
-/

namespace Nlos.Task

open Lib

inductive ParticipantType where
  | taskStore
  | artifactHead
  | semanticAdmission
  | channelTopic
  | driverGateway
  | resourceLedger
  | processBinding
  | operationBinding
deriving DecidableEq

def ParticipantType.code : ParticipantType → ℕ
  | taskStore => 1
  | artifactHead => 2
  | semanticAdmission => 3
  | channelTopic => 4
  | driverGateway => 5
  | resourceLedger => 6
  | processBinding => 7
  | operationBinding => 8

structure ParticipantRecord where
  participantType : ParticipantType
  participantId : Id
  participantGeneration : ℕ
  admissionReceiptId : Id
deriving DecidableEq

inductive ParticipantRegistryState where
  | opened
  | frozenForPermit
  | frozenForTakeover
  | superseded
deriving DecidableEq

def registryRoot (taskId : Id) (taskGeneration registryGeneration : ℕ) (priorRoot : Digest)
    (participants : List ParticipantRecord) : Digest :=
  sha256 "llmos/task-participant-registry/v1" <|
    [taskId.bytes, beBytes 8 taskGeneration, beBytes 8 registryGeneration, priorRoot.bytes,
      beBytes 8 participants.length] ++
    participants.map fun participant =>
      beBytes 8 participant.participantType.code ++ participant.participantId.bytes ++
        beBytes 8 participant.participantGeneration ++ participant.admissionReceiptId.bytes

def emptyRegistryRoot : Digest := sha256 "llmos/task-participant-registry/empty/v1" []

structure ParticipantRegistryRecord where
  taskId : Id
  (taskGeneration generation : ℕ)
  priorRoot : Digest
  participants : List ParticipantRecord
  root : Digest
  state : ParticipantRegistryState
  root_eq : root = registryRoot taskId taskGeneration generation priorRoot participants
deriving DecidableEq

namespace ParticipantRegistryRecord

def ofParticipants (taskId : Id) (taskGeneration generation : ℕ) (priorRoot : Digest)
    (participants : List ParticipantRecord) : ParticipantRegistryRecord where
  taskId := taskId
  taskGeneration := taskGeneration
  generation := generation
  priorRoot := priorRoot
  participants := participants
  root := registryRoot taskId taskGeneration generation priorRoot participants
  state := .opened
  root_eq := rfl

def binding (registry : ParticipantRegistryRecord) : ParticipantRegistryBinding :=
  ⟨registry.generation, registry.root⟩

def successor (registry : ParticipantRegistryRecord) (generation : ℕ) : ParticipantRegistryRecord :=
  ofParticipants registry.taskId registry.taskGeneration generation registry.root
    registry.participants

end ParticipantRegistryRecord

structure AuthorityLeaseRecord where
  (authorityId holderId : Id)
  (term leaseEpoch : ℕ)
  fencingToken : Digest
  (requestedAtMs expiresAtMs ttlMs : ℤ)
  idempotencyKey : Id
deriving DecidableEq

def AuthorityLeaseRecord.binding (lease : AuthorityLeaseRecord) : AuthorityLeaseBinding :=
  ⟨lease.authorityId, lease.holderId, lease.term, lease.leaseEpoch, lease.fencingToken,
    lease.expiresAtMs⟩

inductive GroupState where
  | opened
  | sealed
  | completed
  | failed
  | endedPartial
  | cancelled
deriving DecidableEq

def GroupState.isTerminal : GroupState → Bool
  | opened | sealed => false
  | _ => true

inductive CompletionMode where
  | all
  | any
  | quorum
  | reduce
deriving DecidableEq

inductive FailureMode where
  | failFast
  | collectAll
  | isolate
  | bestEffort
deriving DecidableEq

inductive GroupMemberType where
  | childGroup
  | taskAttempt
deriving DecidableEq

def GroupMemberType.code : GroupMemberType → ℕ
  | childGroup => 0
  | taskAttempt => 1

inductive MembershipState where
  | active
  | removed
deriving DecidableEq

structure GroupRecord where
  (groupId taskId : Id)
  taskGeneration : ℕ
  parentGroupId : Option Id
  depth : ℕ
  state : GroupState
  membershipGeneration : ℕ
  (membershipRoot groupPolicyDigest : Digest)
  completionMode : CompletionMode
  failureMode : FailureMode
  (maxChildren maxDepth cancelEpoch stateSeq : ℕ)
  resourceGroupId : Option Id
  resourceAccountDigest : Option Digest
  cancellationScopeId : Id
deriving DecidableEq

structure GroupMemberRecord where
  groupId : Id
  memberType : GroupMemberType
  memberId : Id
  memberGeneration : ℕ
  controlDomainId : Option Id
  detached : Bool
  membershipState : MembershipState
  membershipGeneration : ℕ
  admissionReceiptId : Id
  removalReceiptId : Option Id
deriving DecidableEq

inductive GroupReceiptKind where
  | admission
  | removal
deriving DecidableEq

structure GroupAdmissionReceiptRecord where
  (receiptId groupId : Id)
  kind : GroupReceiptKind
  memberType : GroupMemberType
  memberId : Id
  memberGeneration : ℕ
  controlDomainId : Option Id
  membershipGenerationAfter : ℕ
  membershipRootAfter : Digest
deriving DecidableEq

structure AttemptGroupBindingRecord where
  (attemptId taskId groupId : Id)
  membershipGeneration : ℕ
  (membershipRoot groupPolicyDigest : Digest)
deriving DecidableEq

structure ArtifactWrite where
  artifactId : Id
  proposedRevision : ℕ
  contentDigest : Digest
  sizeBytes : ℕ
deriving DecidableEq

structure OperationEndpoint where
  effectSeq : ℕ
  operationId : Id
  generation : ℕ
deriving DecidableEq

structure TaskWriteSetRecord where
  taskId : Id
  writeSetRoot : Digest
  attemptId : Id
  attemptGeneration : ℕ
  snapshotId : Id
  head : Head
  plannedEffects : List PlannedEffect
  groupBinding : Option TaskGroupCommitBinding
  participantRegistryBinding : ParticipantRegistryBinding
  artifactWrites : List ArtifactWrite
  operationEndpoints : List OperationEndpoint
deriving DecidableEq

structure ArtifactPublicationExpectation where
  (stagingId artifactId : Id)
  targetRevision : ℕ
  digest : Digest
  sizeBytes : ℕ
deriving DecidableEq

inductive ArtifactCommitPlanState where
  | planned
  | publishing
  | ready
  | finalized
deriving DecidableEq

structure ArtifactCommitPlanRecord where
  (planId idempotencyKey taskId permitId attemptId : Id)
  attemptGeneration : ℕ
  writeSetRoot : Digest
  expectations : List ArtifactPublicationExpectation
  state : ArtifactCommitPlanState
  taskReceiptId : Option Id
deriving DecidableEq

structure NestedArtifactPublicationReceipt where
  (receiptId stagingId artifactId : Id)
  revision : ℕ
  digest : Digest
  sizeBytes : ℕ
  (taskId permitId : Id)
  writeSetRoot : Digest
  priorHeadRevision : ℕ
  priorHeadDigest : Option Digest
  newHeadRevision : ℕ
  newHeadDigest : Digest
deriving DecidableEq

structure EffectSequences where
  taskId : Id
  (effectHistorySeq adoptionEpoch : ℕ)
deriving DecidableEq

inductive TaskStoreError where
  | storage
  | corruptRecord (reason : String)
  | epochExhausted
  | taskNotFound
  | duplicateTask
  | taskAssociationConflict
  | taskRegistrationAdmissionDenied
  | taskCancelled
  | attemptNotFound
  | duplicateAttempt
  | snapshotConflict
  | invalidSnapshotReceipt (reason : String)
  | invalidGeneration
  | invalidAttemptState (state : AttemptState)
  | idempotencyConflict
  | workingSetAdmissionDenied
  | invalidEffectSet (reason : String)
  | taskWriteSetConflict (reason : String)
  | taskWriteSetNotFound
  | permitNotFound
  | permitNotIssued
  | notPermitHolder
  | permitEpochMismatch
  | permitExpired (permitId : Id) (validUntilMs observedMs : ℤ)
  | permitHasEffects (count : ℕ)
  | staleTaskHead
  | fenceRegression
  | cancellationCommitted (cancelEpoch : ℕ)
  | adoptionScopeViolation
  | effectSlotNotFound
  | effectPermitNotFound
  | invalidEffectSlotState (state : SlotState)
  | effectAlreadyClosed
  | invalidFiberBinding
  | effectBindingConflict
  | dispatchTokenMismatch
  | dispatchTokenConsumed
  | conditionNotBound
  | outstandingEffectSlots (count : ℕ)
  | requiredEffectUnsatisfied (effectSeq : ℕ) (reason : String)
  | invalidReconcileState (reason : String)
  | historyConflict
  | quarantined
  | receiptNotFound
  | groupNotFound
  | duplicateGroup
  | groupCycle
  | groupDepthExceeded
  | groupFanoutExceeded
  | groupSealed
  | groupNotOpen (state : GroupState)
  | groupMemberNotFound
  | groupQuarantinedChild
  | invalidGroupState (state : GroupState)
  | unsupportedGroupMode
  | groupPublicationInFlight
  | staleMembershipGeneration (expected current : ℕ)
  | membershipConflict
  | participantRegistryNotFound
  | participantRegistryBindingMissing
  | participantRegistryBindingMismatch
  | participantRegistryCasMismatch
  | participantRegistryFull
  | participantEndpointConflict
  | participantRegistryFrozen (state : ParticipantRegistryState)
  | authorityLeaseRequired
  | authorityLeaseBindingMismatch
  | authorityLeaseNotFound
  | authorityLeaseFenced
  | authorityLeaseExpired
  | authorityLeaseHeld
  | invalidAuthorityLease (reason : String)
  | invalidArtifactPublicationPlan (reason : String)
  | mixedEffectArtifactWriteSet
  | artifactCommitPlanNotFound
  | artifactCommitPlanNotReady (state : ArtifactCommitPlanState)
  | artifactPublicationConflict (reason : String)
  | invalidSemanticPublicationPlan (reason : String)
  | reclaimExecutionProfileMismatch (advisoryProfileId authorityProfileId : String)
  | reclaimExecutionSequenceOutOfRange (executionSequence : ℕ)
  | semanticCommitPlan
  | residencyRefused
deriving DecidableEq

/-- The tier limits the store was opened with. -/
structure ScaleProfile where
  profileId : String
  (maxTaskRegistrations maxActiveWorkingSet : ℕ)
  reclaimThresholdRatio : Option ℕ
deriving DecidableEq

/-- The default threshold is ninety percent; the product saturates. -/
def ScaleProfile.reclaimThresholdCount (profile : ScaleProfile) : ℕ :=
  min (profile.maxActiveWorkingSet * profile.reclaimThresholdRatio.getD 90) (2 ^ 64 - 1) / 100

structure TaskStore where
  scaleProfile : ScaleProfile
  authorityId : Id
  tasks : List TaskRecord
  snapshots : List (Id × SnapshotBundle)
  attempts : List AttemptRecord
  writeSets : List TaskWriteSetRecord
  permits : List PermitRecord
  effectSetRoots : List (Id × Digest)
  slots : List SlotRecord
  effectPermits : List IssuedPermit
  effectReceipts : List EffectReceipt
  fiberRegistrations : List EffectFiberRegistrationRecord
  history : List EffectHistoryEntry
  sequences : List EffectSequences
  receipts : List TaskReceiptRecord
  finalizeProofs : List (Id × Digest)
  cancels : List (Id × Id × ℕ)
  quarantines : List QuarantineReceiptRecord
  adoptions : List AdoptionReceiptRecord
  reconciliations : List ReconciliationReceiptRecord
  registries : List ParticipantRegistryRecord
  lease : Option AuthorityLeaseRecord
  leaseHistory : List AuthorityLeaseRecord
  groups : List GroupRecord
  members : List GroupMemberRecord
  groupReceipts : List GroupAdmissionReceiptRecord
  groupCancels : List (Id × Id × ℕ)
  attemptBindings : List AttemptGroupBindingRecord
  artifactPlans : List ArtifactCommitPlanRecord
  publications : List (Id × NestedArtifactPublicationReceipt)
deriving DecidableEq

def TaskStore.empty (scaleProfile : ScaleProfile) (authorityId : Id) : TaskStore where
  scaleProfile := scaleProfile
  authorityId := authorityId
  tasks := []
  snapshots := []
  attempts := []
  writeSets := []
  permits := []
  effectSetRoots := []
  slots := []
  effectPermits := []
  effectReceipts := []
  fiberRegistrations := []
  history := []
  sequences := []
  receipts := []
  finalizeProofs := []
  cancels := []
  quarantines := []
  adoptions := []
  reconciliations := []
  registries := []
  lease := none
  leaseHistory := []
  groups := []
  members := []
  groupReceipts := []
  groupCancels := []
  attemptBindings := []
  artifactPlans := []
  publications := []

/-- The result of one transaction: a refusal leaves the store as it was. -/
abbrev Tx (α : Type) := Except TaskStoreError α

end Nlos.Task
