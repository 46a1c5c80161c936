import Nlos.Lib.Run
import Nlos.Task.Artifact
import Nlos.Task.Group
import Nlos.Task.Lease

/-!
# The task authority

The public operations of the authority over one store, as the steps of a run. A refused
operation leaves the store as it was; the reclaim drive keeps the permits it had closed before a
refusal.
-/

namespace Nlos.Task

open Lib

structure SemanticPlan where
  (taskId attemptId : Id)
  attemptGeneration : ℕ
  permitId : Id
  /-- The task receipt of a plan that is already finalized. -/
  taskReceiptId : Option Id

inductive SemanticFinalizeDecision where
  | committed (receipt : TaskReceiptRecord)
  | replayed (receipt : TaskReceiptRecord)
deriving DecidableEq

inductive ReclaimPhase where
  | rebuildableCache
  | degradeBackgroundQos
  | checkpointEvict
  | kill
deriving DecidableEq

def taskDefaultReclaimPolicy : List ReclaimPhase :=
  [.rebuildableCache, .degradeBackgroundQos, .checkpointEvict, .kill]

structure WorkingSetReclaimExecutionRequest where
  profileId : String
  executionSequence : ℕ
  executedAtMs : ℤ

structure WorkingSetReclaimEviction where
  (taskId permitId closureReceiptId : Id)
deriving DecidableEq

structure WorkingSetReclaimExecutionReport where
  evictions : List WorkingSetReclaimEviction
  (preActiveCount postActiveCount reclaimThresholdCount : ℕ)
deriving DecidableEq

/-- The answers the drive gets for one permit: the residency walk, and those of its closure. -/
structure ReclaimEvidence where
  residency : PermitRecord → Tx Unit
  terminal : PermitRecord → TerminalEvidence

namespace TaskStore

variable (s : TaskStore)

/-- `plan` is the answer of the semantic plan and its publications, `writeSet` that of the sealed
semantic appends. -/
def finalizeSemanticCommit (request : SemanticPlan) (finalizedAtMs : ℤ)
    (authorityLease : Option AuthorityLeaseRecord) (plan writeSet : Tx Unit) :
    Tx (TaskStore × SemanticFinalizeDecision) := do
  plan
  match request.taskReceiptId with
  | some receiptId => do
    let receipt ← s.loadReceipt request.taskId receiptId
    pure (s, .replayed receipt)
  | none => do
    let task ← s.loadTask request.taskId
    let permit ← s.loadPermitById request.taskId request.permitId
    let attempt ← s.loadAttempt request.taskId request.attemptId
    refuseIf (attempt.attemptGeneration ≠ request.attemptGeneration) .invalidGeneration
    refuseIf (permit.attemptId ≠ request.attemptId ∨
      permit.attemptGeneration ≠ request.attemptGeneration) .notPermitHolder
    let _ ← orRefuse (s.loadWriteSetByRoot request.taskId permit.writeSetRoot)
      .taskWriteSetNotFound
    refuseIf (s.hasAdoption permit.permitId) .adoptionScopeViolation
    s.validatePermitAuthorityLease permit finalizedAtMs authorityLease
    refuseIf (permit.state ≠ .issued) .permitNotIssued
    refuseIf (task.head ≠ permit.expectedHead) .staleTaskHead
    writeSet
    s.validateCommitBinding permit.attemptId permit.groupBinding
    let _ ← s.validateFrozenBinding task permit.participantRegistryBinding
    refuseIf (s.listSlots permit.permitId ≠ []) (.invalidSemanticPublicationPlan
      "Semantic-only finalize cannot carry Effect slots")
    let commitSeq ← orRefuse (checkedSucc task.head.commitSeq) .epochExhausted
    let controlEpoch ← orRefuse (checkedSucc task.controlEpoch) .epochExhausted
    let receipt := sequenceReceipt task permit attempt commitSeq
    let s ← s.writeTerminal task permit attempt receipt (some (finalizeProofDigestOf [])) none
      .committed controlEpoch
    pure (s, .committed receipt)

def reopenParticipantRegistryAfterPermitClosure (taskId closureReceiptId : Id)
    (lease : Option AuthorityLeaseRecord) (reopenedAtMs : ℤ) (registries : Tx Unit) :
    Tx (TaskStore × Unit) := do
  refuseIf (reopenedAtMs < 0) (.corruptRecord "permit closure registry reopen timestamp")
  let task ← s.loadTask taskId
  let receipt ← s.loadReceipt taskId closureReceiptId
  refuseIf (¬ (receipt.outcome = .failedBeforeEffect ∨ receipt.outcome = .cancelledBeforeEffect) ∨
    receipt.new.commitSeq ≠ receipt.prior.commitSeq)
    (.invalidReconcileState "receipt is not a head-unchanged TaskPermitClosureReceipt")
  let permitId ← orRefuse receipt.permitId .permitNotFound
  let frozen ← orRefuse receipt.participantRegistryBinding .participantRegistryBindingMissing
  let permit ← s.loadPermitById taskId permitId
  s.validatePermitAuthorityLease permit reopenedAtMs lease
  let s ← s.reopenRegistryOnPermitClosure task (some frozen)
  registries
  pure (s, ())

def listIssuedPermitsInEvictionOrder : List PermitRecord :=
  (s.permits.filter fun p => p.state = .issued).insertionSort fun a b =>
    a.createdAtMs < b.createdAtMs ∨ (a.createdAtMs = b.createdAtMs ∧ a.permitId ≤ b.permitId)

/-- A permit without lease and adoption all of whose slots ended without effect. -/
def permitIsReclaimEvictable (permit : PermitRecord) : Prop :=
  permit.authorityLeaseBinding = none ∧
    s.loadAdoptionByPermit permit.taskId permit.permitId = none ∧
    ∀ slot ∈ s.listSlots permit.permitId, slot.state = .noEffect ∨ slot.state = .confirmedNoEffect

instance (permit : PermitRecord) : Decidable (s.permitIsReclaimEvictable permit) :=
  inferInstanceAs (Decidable (_ ∧ _))

def reclaimCloseRequest (permit : PermitRecord) (executedAtMs : ℤ) : ClosePermitRequest where
  taskId := permit.taskId
  attemptId := permit.attemptId
  attemptGeneration := permit.attemptGeneration
  permitId := permit.permitId
  outcome := .cancelledBeforeEffect
  fencedParticipantDigest := 0
  closedAtMs := executedAtMs

/-- Walks one candidate to its closure; only a fresh closure counts as an eviction. -/
def evictPermit (permit : PermitRecord) (executedAtMs : ℤ) (evidence : ReclaimEvidence) :
    Tx (TaskStore × Option WorkingSetReclaimEviction) := do
  evidence.residency permit
  let (s, decision) ← s.closePermit (reclaimCloseRequest permit executedAtMs) none
    (evidence.terminal permit)
  match decision with
  | .closed receipt => pure (s, some ⟨permit.taskId, permit.permitId, receipt.receiptId⟩)
  | _ => pure (s, none)

/-- The candidates in turn, until the working set is within the threshold. A refusal ends the
drive with the store as the closures before it left it. -/
def evictPermits (executedAtMs : ℤ) (evidence : ReclaimEvidence) (preActive threshold : ℕ) :
    List PermitRecord → List WorkingSetReclaimEviction → TaskStore →
      TaskStore × Tx (List WorkingSetReclaimEviction)
  | [], evictions, s => (s, .ok evictions)
  | permit :: rest, evictions, s =>
    if preActive - evictions.length ≤ threshold then (s, .ok evictions)
    else if ¬ s.permitIsReclaimEvictable permit then
      evictPermits executedAtMs evidence preActive threshold rest evictions s
    else
      match s.evictPermit permit executedAtMs evidence with
      | .error e => (s, .error e)
      | .ok (s, eviction) =>
        evictPermits executedAtMs evidence preActive threshold rest
          (evictions ++ eviction.toList) s

def driveWorkingSetReclaim (request : WorkingSetReclaimExecutionRequest)
    (evidence : ReclaimEvidence) : TaskStore × Tx WorkingSetReclaimExecutionReport :=
  let threshold := s.scaleProfile.reclaimThresholdCount
  if request.profileId ≠ s.scaleProfile.profileId then
    (s, .error (.reclaimExecutionProfileMismatch request.profileId s.scaleProfile.profileId))
  else if taskDefaultReclaimPolicy.length ≤ request.executionSequence then
    (s, .error (.reclaimExecutionSequenceOutOfRange request.executionSequence))
  else
    -- Only the eviction phase acts; the drive may start after it.
    let candidates :=
      if ReclaimPhase.checkpointEvict ∈ taskDefaultReclaimPolicy.drop request.executionSequence
      then s.listIssuedPermitsInEvictionOrder else []
    let (t, outcome) := evictPermits request.executedAtMs evidence s.countIssuedPermits threshold
      candidates [] s
    (t, outcome.map fun evictions => ⟨evictions, s.countIssuedPermits, t.countIssuedPermits,
      threshold⟩)

end TaskStore

/-- One call of the authority. The answers of authorities and tables outside this model are part
of the call. -/
inductive Operation where
  | registerTask (spec : TaskSpec)
  | registerAttempt (spec : AttemptSpec) (snapshotReceiptId : Option Id) (snapshotCheck : Tx Unit)
  | sealTaskWriteSet (record : TaskWriteSetRecord)
  | requestCommitPermit (request : PermitRequest) (evidence : PermitEvidence)
      (lease : Option AuthorityLeaseRecord)
  | cancelTask (taskId idempotencyKey : Id)
  | requestEffectPermit (request : EffectPermitRequest) (owners : Tx Unit)
      (lease : Option AuthorityLeaseRecord)
  | consumeDispatchToken (request : DispatchRequest) (lease : Option AuthorityLeaseRecord)
  | recordEffectOutcome (request : OutcomeRequest) (lease : Option AuthorityLeaseRecord)
  | recordNoEffect (request : NoEffectRequest) (lease : Option AuthorityLeaseRecord)
  | registerEffectBinding (request : RegisterEffectBindingRequest)
      (lease : Option AuthorityLeaseRecord)
  | finalizeCommit (request : FinalizeRequest) (lease : Option AuthorityLeaseRecord)
      (evidence : TerminalEvidence)
  | finalizeCommitV3 (request : FinalizeRequestV3) (lease : Option AuthorityLeaseRecord)
      (evidence : TerminalEvidence)
  | closePermit (request : ClosePermitRequest) (lease : Option AuthorityLeaseRecord)
      (evidence : TerminalEvidence)
  | adoptPermit (request : AdoptionRequest) (lease : Option AuthorityLeaseRecord)
  | adoptPermitAcrossTakeover (request : AdoptionRequest) (takeoverReceiptId : Id)
      (successorLease : AuthorityLeaseRecord) (takeover : CrossTermEvidence)
  | reconcileEffect (request : ReconcileRequest) (lease : Option AuthorityLeaseRecord)
      (takeover : CrossTermEvidence)
  | reconcileLateOperationOutcome (request : LateOperationOutcomeRequest)
      (lease : Option AuthorityLeaseRecord)
  | planArtifactCommit (request : PlanArtifactCommitRequest)
  | authorizeArtifactPublication (planId : Id)
  | recordArtifactPublications (planId : Id) (receipts : List NestedArtifactPublicationReceipt)
  | finalizeArtifactCommit (planId : Id)
  | finalizeSemanticCommit (plan : SemanticPlan) (finalizedAtMs : ℤ)
      (lease : Option AuthorityLeaseRecord) (progress writeSet : Tx Unit)
  | driveWorkingSetReclaim (request : WorkingSetReclaimExecutionRequest)
      (evidence : ReclaimEvidence)
  | registerGroup (spec : GroupSpec)
  | registerAttemptInGroup (spec : AttemptSpec) (binding : GroupBinding)
  | removeMember (groupId : Id) (memberType : GroupMemberType) (memberId : Id)
      (memberGeneration : ℕ)
  | sealGroup (groupId : Id)
  | cancelGroup (groupId idempotencyKey : Id)
  | refreshGroupAggregate (groupId : Id)
  | acquireAuthorityLease (request : AuthorityLeaseRequest) (wallAnchor : WallAnchor)
  | prepareAuthorityTakeoverFence (taskId : Id) (expected : ParticipantRegistryBinding)
      (lease : AuthorityLeaseRecord) (requestedAtMs : ℤ) (assignment receipts : Tx Unit)
  | reopenSuccessorRegistry (taskId : Id) (expected : ParticipantRegistryBinding)
      (lease : AuthorityLeaseRecord) (reopenedAtMs : ℤ) (takeover replay assignment : Tx Unit)
  | reopenParticipantRegistryAfterPermitClosure (taskId closureReceiptId : Id)
      (lease : Option AuthorityLeaseRecord) (reopenedAtMs : ℤ) (registries : Tx Unit)
  | registerVerifiedParticipant (taskId : Id) (expected : ParticipantRegistryBinding)
      (participant : ParticipantRecord) (owner assignment : Tx Unit)
  /-- A call that writes only tables outside this model. -/
  | outside (answer : Tx Unit)

inductive Reply where
  | task (decision : TaskRegistrationDecision)
  | attempt (decision : AttemptRegistrationDecision)
  | writeSet (record : TaskWriteSetRecord)
  | permit (decision : PermitDecision)
  | cancel (decision : CancelDecision)
  | effectPermit (decision : EffectPermitDecision)
  | dispatched (slot : SlotRecord)
  | effectReceipt (decision : EffectReceiptDecision)
  | effectBinding (decision : EffectBindingDecision)
  | finalize (decision : FinalizeDecision)
  | close (decision : ClosePermitDecision)
  | adoption (decision : AdoptionReplay)
  | reconcile (decision : ReconcileReplay)
  | lateOperation (decision : LateOperationOutcomeDecision)
  | artifactPlan (decision : ArtifactCommitPlanDecision)
  | artifactAuthorization (decision : ArtifactPublicationAuthorizationDecision)
  | artifactProgress (progress : ArtifactCommitProgress)
  | artifactFinalize (decision : ArtifactFinalizeDecision)
  | semanticFinalize (decision : SemanticFinalizeDecision)
  | reclaim (report : WorkingSetReclaimExecutionReport)
  | group (decision : GroupRegistrationDecision)
  | groupAttempt (registration : AttemptGroupRegistration)
  | removal (decision : RemovalDecision)
  | groupRecord (record : GroupRecord)
  | groupCancel (decision : GroupCancelDecision)
  | lease (decision : AuthorityLeaseDecision)
  | registry (record : ParticipantRegistryRecord)
  | done

abbrev Answer := Except TaskStoreError Reply

namespace TaskStore

/-- A transaction that is refused is rolled back. -/
def transact {α : Type} (s : TaskStore) (tx : Tx (TaskStore × α)) (reply : α → Reply) :
    TaskStore × Answer :=
  match tx with
  | .ok (t, a) => (t, .ok (reply a))
  | .error e => (s, .error e)

def call (s : TaskStore) : Operation → TaskStore × Answer
  | .registerTask spec => s.transact (s.registerTask spec) .task
  | .registerAttempt spec snapshotReceiptId snapshotCheck =>
    s.transact (s.registerAttempt spec snapshotReceiptId snapshotCheck) .attempt
  | .sealTaskWriteSet record => s.transact (s.sealTaskWriteSet record) .writeSet
  | .requestCommitPermit request evidence lease =>
    s.transact (s.requestCommitPermit request evidence lease) .permit
  | .cancelTask taskId key => s.transact (s.cancelTask taskId key) .cancel
  | .requestEffectPermit request owners lease =>
    s.transact (s.requestEffectPermit request owners lease) .effectPermit
  | .consumeDispatchToken request lease =>
    s.transact (s.consumeDispatchToken request lease) .dispatched
  | .recordEffectOutcome request lease =>
    s.transact (s.recordEffectOutcome request lease) .effectReceipt
  | .recordNoEffect request lease => s.transact (s.recordNoEffect request lease) .effectReceipt
  | .registerEffectBinding request lease =>
    s.transact (s.registerEffectBinding request lease) .effectBinding
  | .finalizeCommit request lease evidence =>
    s.transact (s.finalizeCommit request lease evidence) .finalize
  | .finalizeCommitV3 request lease evidence =>
    s.transact (s.finalizeCommitV3 request lease evidence) .finalize
  | .closePermit request lease evidence =>
    s.transact (s.closePermit request lease evidence) .close
  | .adoptPermit request lease => s.transact (s.adoptPermit request lease) .adoption
  | .adoptPermitAcrossTakeover request receiptId lease takeover =>
    s.transact (s.adoptPermitAcrossTakeover request receiptId lease takeover) .adoption
  | .reconcileEffect request lease takeover =>
    s.transact (s.reconcileEffect request lease takeover) .reconcile
  | .reconcileLateOperationOutcome request lease =>
    s.transact (s.reconcileLateOperationOutcome request lease) .lateOperation
  | .planArtifactCommit request => s.transact (s.planArtifactCommit request) .artifactPlan
  | .authorizeArtifactPublication planId =>
    s.transact (s.authorizeArtifactPublication planId) .artifactAuthorization
  | .recordArtifactPublications planId receipts =>
    s.transact (s.recordArtifactPublications planId receipts) .artifactProgress
  | .finalizeArtifactCommit planId =>
    s.transact (s.finalizeArtifactCommit planId) .artifactFinalize
  | .finalizeSemanticCommit plan finalizedAtMs lease progress writeSet =>
    s.transact (s.finalizeSemanticCommit plan finalizedAtMs lease progress writeSet)
      .semanticFinalize
  | .driveWorkingSetReclaim request evidence =>
    let (t, outcome) := s.driveWorkingSetReclaim request evidence
    (t, outcome.map .reclaim)
  | .registerGroup spec => s.transact (s.registerGroup spec) .group
  | .registerAttemptInGroup spec binding =>
    s.transact (s.registerAttemptInGroup spec binding) .groupAttempt
  | .removeMember groupId memberType memberId memberGeneration =>
    s.transact (s.removeMember groupId memberType memberId memberGeneration) .removal
  | .sealGroup groupId => s.transact (s.sealGroup groupId) .groupRecord
  | .cancelGroup groupId key => s.transact (s.cancelGroup groupId key) .groupCancel
  | .refreshGroupAggregate groupId =>
    s.transact (s.refreshGroupAggregate groupId) .groupRecord
  | .acquireAuthorityLease request wallAnchor =>
    s.transact (s.acquireAuthorityLease request wallAnchor) .lease
  | .prepareAuthorityTakeoverFence taskId expected lease requestedAtMs assignment receipts =>
    s.transact (s.prepareAuthorityTakeoverFence taskId expected lease requestedAtMs assignment
      receipts) .registry
  | .reopenSuccessorRegistry taskId expected lease reopenedAtMs takeover replay assignment =>
    s.transact (s.reopenSuccessorRegistry taskId expected lease reopenedAtMs takeover replay
      assignment) fun _ => .done
  | .reopenParticipantRegistryAfterPermitClosure taskId receiptId lease reopenedAtMs registries =>
    s.transact (s.reopenParticipantRegistryAfterPermitClosure taskId receiptId lease
      reopenedAtMs registries) fun _ => .done
  | .registerVerifiedParticipant taskId expected participant owner assignment =>
    s.transact (s.registerVerifiedParticipant taskId expected participant owner assignment)
      .registry
  | .outside answer => (s, answer.map fun _ => .done)

def step (s : TaskStore) (operation : Operation) : Except Empty (TaskStore × Answer) :=
  .ok (s.call operation)

end TaskStore

def AuthorityRun (profile : ScaleProfile) (authorityId : Id)
    (h : List (Event TaskStore Operation Answer)) (s : TaskStore) : Prop :=
  Run TaskStore.step (TaskStore.empty profile authorityId) h s

end Nlos.Task
