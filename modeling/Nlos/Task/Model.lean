import Nlos.Lib.Sha256

/-!
# Records of the task authority

The rows the task authority keeps about tasks, attempts, commit permits and effects, with the
identifiers and digests it derives for them.
-/

namespace Nlos.Task

open Lib

/-- A task, attempt, permit, receipt or slot identity: sixteen bytes. -/
abbrev Id := Word 16

abbrev Digest := Word 32

/-- Counters are `u64`: an increment that would not fit is refused. -/
def checkedSucc (n : ℕ) : Option ℕ := if n + 1 < 2 ^ 64 then some (n + 1) else none

lemma checkedSucc_eq_some : checkedSucc n = some m ↔ n + 1 < 2 ^ 64 ∧ m = n + 1 := by
  unfold checkedSucc
  split <;> simp_all [eq_comm]

def sha256 (domain : String) (parts : List (List UInt8)) : Digest :=
  Sha256.digest (domain.toUTF8.toList ++ parts.flatten)

def sha256Prefix16 (domain : String) (parts : List (List UInt8)) : Id :=
  Word.ofBytes 16 ((sha256 domain parts).bytes.take 16)

def derivePermitId (taskId idempotencyKey : Id) : Id :=
  sha256Prefix16 "llmos/task-commit-permit/v1" [taskId.bytes, idempotencyKey.bytes]

def deriveCommitReceiptId (permitId : Id) : Id :=
  sha256Prefix16 "llmos/task-commit-receipt/v1" [permitId.bytes]

def deriveClosureReceiptId (taskId attemptId : Id) (cancelEpoch : ℕ) : Id :=
  sha256Prefix16 "llmos/task-closure-receipt/v1"
    [taskId.bytes, attemptId.bytes, beBytes 8 cancelEpoch]

def derivePermitClosureReceiptId (permitId : Id) : Id :=
  sha256Prefix16 "llmos/task-permit-closure-receipt/v1" [permitId.bytes]

def deriveQuarantineReceiptId (permitId : Id) : Id :=
  sha256Prefix16 "llmos/task-effect-quarantine/v1" [permitId.bytes]

def deriveAdoptionReceiptId (permitId : Id) (adoptionEpoch : ℕ) : Id :=
  sha256Prefix16 "llmos/task-permit-adoption/v1" [permitId.bytes, beBytes 8 adoptionEpoch]

def deriveReconcileReceiptId (effectSlotId : Id) (stateSeq : ℕ) : Id :=
  sha256Prefix16 "llmos/task-effect-reconciliation/v1" [effectSlotId.bytes, beBytes 8 stateSeq]

def deriveEffectSlotId (permitId : Id) (effectSeq : ℕ) : Id :=
  sha256Prefix16 "llmos/task-effect-slot/v1" [permitId.bytes, beBytes 8 effectSeq]

def deriveEffectPermitId (permitId idempotencyKey : Id) : Id :=
  sha256Prefix16 "llmos/task-effect-permit/v1" [permitId.bytes, idempotencyKey.bytes]

def deriveDispatchToken (effectPermitId attemptId : Id) (attemptGeneration : ℕ) : Digest :=
  sha256 "llmos/task-effect-dispatch-token/v1"
    [effectPermitId.bytes, attemptId.bytes, beBytes 8 attemptGeneration]

def dispatchTokenDigest (token : Digest) : Digest :=
  sha256 "llmos/task-effect-dispatch-token-digest/v1" [token.bytes]

def deriveEffectReceiptId (domain : String) (slotId : Id) (stateSeq : ℕ) : Id :=
  sha256Prefix16 domain [slotId.bytes, beBytes 8 stateSeq]

/-- The lease position a permit was issued under. -/
structure AuthorityLeaseBinding where
  (authorityId holderId : Id)
  (term leaseEpoch : ℕ)
  fencingToken : Digest
  expiresAtMs : ℤ
deriving DecidableEq

structure TaskGroupCommitBinding where
  groupId : Id
  membershipGeneration : ℕ
  (membershipRoot groupPolicyDigest : Digest)
deriving DecidableEq

structure ParticipantRegistryBinding where
  generation : ℕ
  root : Digest
deriving DecidableEq

inductive TaskState where
  | active
  | cancelled
deriving DecidableEq

inductive AttemptState where
  | created
  | conflicted
  | readyToCommit
  | superseded
  | commitPermitted
  | cancelled
  | failed
  | committed
deriving DecidableEq

def AttemptState.isOpenCandidate : AttemptState → Bool
  | created | readyToCommit => true
  | _ => false

structure Head where
  commitSeq : ℕ
  effectHistoryRoot : Digest
  retryFenceEpoch : ℕ
deriving DecidableEq

structure TaskRecord where
  taskId : Id
  taskGeneration : ℕ
  head : Head
  (controlEpoch cancelEpoch permitEpoch : ℕ)
  state : TaskState
  applicationId : Option Id
  planRevision : Option (Id × ℕ)
deriving DecidableEq

structure SnapshotBundle where
  snapshotId : Id
  snapshotDigest : Digest
  /-- The head the snapshot was cut at. -/
  head : Head
deriving DecidableEq

structure AttemptRecord where
  (taskId attemptId idempotencyKey : Id)
  attemptGeneration : ℕ
  snapshot : SnapshotBundle
  snapshotReceiptId : Option Id
  cancellationScopeId : Id
  cancellationGeneration : ℕ
  state : AttemptState
  receiptId : Option Id
  createdAtMs : ℤ
deriving DecidableEq

inductive PermitState where
  | issued
  | closed
  | superseded
  | quarantined
deriving DecidableEq

def PermitState.isOutstanding : PermitState → Bool
  | issued | quarantined => true
  | _ => false

structure PermitRecord where
  (permitId taskId idempotencyKey attemptId : Id)
  attemptGeneration : ℕ
  expectedHead : Head
  writeSetRoot : Digest
  groupBinding : Option TaskGroupCommitBinding
  participantRegistryBinding : Option ParticipantRegistryBinding
  authorityLeaseBinding : Option AuthorityLeaseBinding
  (permitEpoch controlEpoch cancelEpoch : ℕ)
  validUntilMs : ℤ
  state : PermitState
  createdAtMs : ℤ
deriving DecidableEq

inductive ReceiptOutcome where
  | committed
  | failedBeforeEffect
  | cancelledBeforeEffect
  | partialEffect
  | failedAfterEffect
deriving DecidableEq

inductive PermitClosureOutcome where
  | failedBeforeEffect
  | cancelledBeforeEffect
deriving DecidableEq

def PermitClosureOutcome.receiptOutcome : PermitClosureOutcome → ReceiptOutcome
  | failedBeforeEffect => .failedBeforeEffect
  | cancelledBeforeEffect => .cancelledBeforeEffect

structure TaskReceiptRecord where
  (receiptId taskId : Id)
  permitId : Option Id
  attemptId : Id
  attemptGeneration : ℕ
  groupBinding : Option TaskGroupCommitBinding
  participantRegistryBinding : Option ParticipantRegistryBinding
  outcome : ReceiptOutcome
  (prior new : Head)
deriving DecidableEq

structure LogicalEffectDescriptor where
  taskId : Id
  taskGeneration : ℕ
  intentSpecId : Digest
  stableActionSlot : ℕ
  targetAuthorityObjectId : Digest
  (effectClass idempotencyScope : ℕ)
deriving DecidableEq

namespace LogicalEffectDescriptor

def canonicalBytes (d : LogicalEffectDescriptor) : List UInt8 :=
  d.taskId.bytes ++ beBytes 8 d.taskGeneration ++ d.intentSpecId.bytes ++
    beBytes 8 d.stableActionSlot ++ d.targetAuthorityObjectId.bytes ++
    beBytes 4 d.effectClass ++ beBytes 4 d.idempotencyScope

def logicalEffectId (d : LogicalEffectDescriptor) : Digest :=
  sha256 "llmos/task-logical-effect/v1" [d.canonicalBytes]

end LogicalEffectDescriptor

def idempotencyIdentityDigest (logicalEffectId : Digest) : Digest :=
  sha256 "llmos/task-effect-idempotency-identity/v1" [logicalEffectId.bytes]

structure PlannedEffect where
  descriptor : LogicalEffectDescriptor
  required : Bool
  requiredConditionDigest : Option Digest
  (successCriteriaDigest actionProposalDigest : Digest)
deriving DecidableEq

inductive SlotState where
  | planned
  | permitted
  | dispatched
  | noEffect
  | effectClosed
  | effectUnknown
  | reconciling
  | confirmedNoEffect
deriving DecidableEq

def SlotState.blocksFinalization : SlotState → Bool
  | noEffect | effectClosed | confirmedNoEffect => false
  | _ => true

inductive NoEffectReason where
  | notSelected
  | cancelledBeforeDispatch
  | expiredBeforeDispatch
  | policySkipped
  | conditionNotApplicable
deriving DecidableEq

inductive ReceiptKind where
  | effectClosed
  | effectUnknown
  | noEffect
  | confirmedNoEffect
deriving DecidableEq

def ReceiptKind.code : ReceiptKind → ℕ
  | effectClosed => 0
  | effectUnknown => 1
  | noEffect => 2
  | confirmedNoEffect => 3

structure SlotRecord where
  permitId : Id
  effectSeq : ℕ
  (taskId effectSlotId : Id)
  (logicalEffectId idempotencyIdentityDigest : Digest)
  required : Bool
  requiredConditionDigest : Option Digest
  (successCriteriaDigest actionProposalDigest : Digest)
  state : SlotState
  stateSeq : ℕ
  (effectPermitId effectReceiptId : Option Id)
  /-- The fiber that initiates the effect, and its incarnation. -/
  fiberBinding : Option Id
  fiberGeneration : Option ℕ
deriving DecidableEq

def SlotRecord.key (slot : SlotRecord) : Id × ℕ := (slot.permitId, slot.effectSeq)

structure IssuedPermit where
  (effectPermitId idempotencyKey permitId : Id)
  permitEpoch : ℕ
  (taskId attemptId : Id)
  attemptGeneration : ℕ
  effectSlotId : Id
  effectSeq : ℕ
  logicalEffectId : Digest
  retryFenceEpoch : ℕ
  (idempotencyIdentityDigest effectSetRoot actionProposalDigest : Digest)
  participantRegistryBinding : Option ParticipantRegistryBinding
  (controlEpoch cancelEpoch : ℕ)
  oneShotDispatchToken : Digest
  validUntilMs : ℤ
deriving DecidableEq

/-- The state and the receipt of the slot are those of the time of reading. -/
structure EffectFiberRegistrationRecord where
  (registrationId taskId permitId effectSlotId : Id)
  effectSeq : ℕ
  logicalEffectId : Digest
  binding : Id
  fiberGeneration : ℕ
  idempotencyKey : Id
  registeredAtMs : ℤ
  slotState : SlotState
  effectReceiptId : Option Id
deriving DecidableEq

structure EffectReceipt where
  (receiptId taskId permitId effectSlotId : Id)
  effectSeq : ℕ
  logicalEffectId : Digest
  kind : ReceiptKind
  priorSlotState : SlotState
  noEffectReason : Option NoEffectReason
  proofDigest : Digest
deriving DecidableEq

def expectedSuccessAssertionDigest (slot : SlotRecord) (receipt : EffectReceipt) : Digest :=
  sha256 "llmos/task-effect-success-proof/v1"
    [slot.effectSlotId.bytes, slot.logicalEffectId.bytes, beBytes 8 slot.effectSeq,
      slot.successCriteriaDigest.bytes, receipt.receiptId.bytes, receipt.proofDigest.bytes,
      beBytes 8 receipt.kind.code]

def expectedConditionFalseProof (snapshotDigest conditionDigest : Digest) : Digest :=
  sha256 "llmos/task-condition-false-proof/v1" [snapshotDigest.bytes, conditionDigest.bytes]

def optionalDigestBytes : Option Digest → List UInt8
  | some digest => 1 :: digest.bytes
  | none => [0]

def effectSetRootOf (plannedEffects : List PlannedEffect) : Digest :=
  sha256 "llmos/task-effect-set/v1" <| plannedEffects.zipIdx.map fun (planned, seq) =>
    beBytes 8 seq ++ planned.descriptor.logicalEffectId.bytes ++
      (idempotencyIdentityDigest planned.descriptor.logicalEffectId).bytes ++
      [if planned.required then 1 else 0] ++ optionalDigestBytes planned.requiredConditionDigest ++
      planned.successCriteriaDigest.bytes ++ planned.actionProposalDigest.bytes

inductive EffectHistoryOutcome where
  | effectClosed
  | confirmedNoEffect
  | partialEffect
deriving DecidableEq

def EffectHistoryOutcome.code : EffectHistoryOutcome → ℕ
  | effectClosed => 0
  | confirmedNoEffect => 1
  | partialEffect => 2

structure EffectHistoryEntry where
  effectHistorySeq : ℕ
  taskId : Id
  logicalEffectId : Digest
  retryFenceEpoch : ℕ
  (actionProposalDigest idempotencyIdentityDigest : Digest)
  operationId : Option Id
  outcome : EffectHistoryOutcome
  authoritativeEffectReceiptId : Id
deriving DecidableEq

/-- The encoding of one entry; the compensation field is always absent. -/
def EffectHistoryEntry.bytes (entry : EffectHistoryEntry) : List UInt8 :=
  beBytes 8 entry.effectHistorySeq ++ entry.logicalEffectId.bytes ++
    beBytes 8 entry.retryFenceEpoch ++ entry.actionProposalDigest.bytes ++
    entry.idempotencyIdentityDigest.bytes ++
    (match entry.operationId with
      | some operation => 1 :: operation.bytes
      | none => [0]) ++
    beBytes 1 entry.outcome.code ++ entry.authoritativeEffectReceiptId.bytes ++ [0]

def effectHistoryRootOf (entries : List EffectHistoryEntry) : Digest :=
  sha256 "llmos/task-effect-history/v1"
    (if entries.isEmpty then [[0x80]] else entries.map EffectHistoryEntry.bytes)

def emptyEffectHistoryRoot : Digest := sha256 "llmos/task-effect-history/v1" [[0x80]]

def initialHead : Head := ⟨0, emptyEffectHistoryRoot, 0⟩

structure QuarantineReceiptRecord where
  (receiptId taskId permitId : Id)
  permitEpoch : ℕ
  (outstandingEffectQuarantineRoot conflictingTargetDigest : Digest)
  knownEffectReceipts : List Id
  unknownSlots : List ℕ
  fencedParticipantDigest : Digest
deriving DecidableEq

structure CrossTermAdoption where
  takeoverReceiptId : Id
  currentParticipantRegistryBinding : ParticipantRegistryBinding
deriving DecidableEq

structure AdoptionReceiptRecord where
  (receiptId idempotencyKey taskId : Id)
  taskGeneration : ℕ
  originalPermitId : Id
  (originalPermitEpoch originalControlEpoch originalCancelEpoch adoptionEpoch : ℕ)
  authorityLeaseBinding : Option AuthorityLeaseBinding
  crossTerm : Option CrossTermAdoption
deriving DecidableEq

inductive ReconcileOutcome where
  | effectClosed
  | confirmedNoEffect
  | effectUnknown
deriving DecidableEq

structure ReconciliationReceiptRecord where
  (receiptId taskId permitId : Id)
  permitEpoch : ℕ
  (permitAdoptionReceiptId effectSlotId : Id)
  effectSeq : ℕ
  logicalEffectId : Digest
  retryFenceEpoch : ℕ
  outcome : ReconcileOutcome
  closureProofDigest : Digest
  effectReceiptId : Option Id
deriving DecidableEq

end Nlos.Task
