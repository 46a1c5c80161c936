import Nlos.Task.Access

/-!
# Tasks, attempts and commit permits

Registration of tasks and attempts, the competition of attempts for the one commit permit of
their task, and cancellation.
-/

namespace Nlos.Task

open Lib

structure TaskSpec where
  taskId : Id
  taskGeneration : ℕ
  applicationId : Option Id
  planRevision : Option (Id × ℕ)

inductive TaskRegistrationDecision where
  | created (taskId : Id)
  | existing (taskId : Id)
deriving DecidableEq

structure AttemptSpec where
  (taskId attemptId : Id)
  attemptGeneration : ℕ
  snapshot : SnapshotBundle
  cancellationScopeId : Id
  cancellationGeneration : ℕ
  idempotencyKey : Id
  registeredAtMs : ℤ

inductive AttemptRegistrationDecision where
  | created (attempt : AttemptRecord)
  | existing (attempt : AttemptRecord)
deriving DecidableEq

def attemptMatchesSpec (record : AttemptRecord) (spec : AttemptSpec) : Prop :=
  record.taskId = spec.taskId ∧ record.attemptId = spec.attemptId ∧
    record.attemptGeneration = spec.attemptGeneration ∧ record.snapshot = spec.snapshot ∧
    record.cancellationScopeId = spec.cancellationScopeId ∧
    record.cancellationGeneration = spec.cancellationGeneration

instance (record : AttemptRecord) (spec : AttemptSpec) :
    Decidable (attemptMatchesSpec record spec) :=
  inferInstanceAs (Decidable (_ ∧ _))

def AttemptSpec.record (spec : AttemptSpec) (snapshotReceiptId : Option Id) : AttemptRecord where
  taskId := spec.taskId
  attemptId := spec.attemptId
  idempotencyKey := spec.idempotencyKey
  attemptGeneration := spec.attemptGeneration
  snapshot := spec.snapshot
  snapshotReceiptId := snapshotReceiptId
  cancellationScopeId := spec.cancellationScopeId
  cancellationGeneration := spec.cancellationGeneration
  state := .created
  receiptId := none
  createdAtMs := spec.registeredAtMs

namespace TaskStore

variable (s : TaskStore)

def registerTask (spec : TaskSpec) : Tx (TaskStore × TaskRegistrationDecision) :=
  match s.tasks.find? fun t => t.taskId = spec.taskId with
  | some existing => do
    refuseIf (existing.taskGeneration ≠ spec.taskGeneration) .duplicateTask
    refuseIf (existing.applicationId ≠ spec.applicationId ∨
      existing.planRevision ≠ spec.planRevision) .taskAssociationConflict
    pure (s, .existing spec.taskId)
  | none => do
    refuseIf (s.scaleProfile.maxTaskRegistrations < s.tasks.length + 1)
      .taskRegistrationAdmissionDenied
    let record : TaskRecord :=
      { taskId := spec.taskId
        taskGeneration := spec.taskGeneration
        head := initialHead
        controlEpoch := 1
        cancelEpoch := 0
        permitEpoch := 0
        state := .active
        applicationId := spec.applicationId
        planRevision := spec.planRevision }
    let (s, _) ← { s with tasks := s.tasks ++ [record] }.initializeRegistry record
    pure (s, .created spec.taskId)

def loadAttemptByKey (taskId idempotencyKey : Id) : Option AttemptRecord :=
  s.attempts.find? fun a => a.taskId = taskId ∧ a.idempotencyKey = idempotencyKey

def loadAttemptGlobal (attemptId : Id) : Option AttemptRecord :=
  s.attempts.find? fun a => a.attemptId = attemptId

def insertSnapshotIfAbsent (taskId : Id) (snapshot : SnapshotBundle) : Tx TaskStore :=
  match s.snapshots.find? fun row => row.1 = taskId ∧ row.2.snapshotId = snapshot.snapshotId with
  | some existing => do
    refuseIf (existing.2 ≠ snapshot) .snapshotConflict
    pure s
  | none => .ok { s with snapshots := s.snapshots ++ [(taskId, snapshot)] }

/-- `snapshotCheck` is the answer of the snapshot receipts to a registration that names one. -/
def registerAttempt (spec : AttemptSpec) (snapshotReceiptId : Option Id)
    (snapshotCheck : Tx Unit) : Tx (TaskStore × AttemptRegistrationDecision) := do
  let task ← s.loadTask spec.taskId
  match s.loadAttemptByKey spec.taskId spec.idempotencyKey with
  | some existing => do
    refuseIf (¬ (attemptMatchesSpec existing spec ∧
      existing.snapshotReceiptId = snapshotReceiptId)) .idempotencyConflict
    pure (s, .existing existing)
  | none => do
    refuseIf (s.loadAttemptGlobal spec.attemptId).isSome .duplicateAttempt
    refuseIf (task.state = .cancelled) .taskCancelled
    forSome snapshotReceiptId fun _ => snapshotCheck
    let s ← s.insertSnapshotIfAbsent spec.taskId spec.snapshot
    let record := spec.record snapshotReceiptId
    pure ({ s with attempts := s.attempts ++ [record] }, .created record)

/-- Stores a sealed write set; the owner read-backs of the sealing are not part of the store. -/
def sealTaskWriteSet (record : TaskWriteSetRecord) : Tx (TaskStore × TaskWriteSetRecord) := do
  let writeSets ← orRefuse (insertRow
    (fun w => w.taskId = record.taskId ∧ w.writeSetRoot = record.writeSetRoot) record s.writeSets)
    .storage
  pure ({ s with writeSets := writeSets }, record)

end TaskStore

/-! ### The permit competition -/

structure PermitRequest where
  (taskId attemptId : Id)
  attemptGeneration : ℕ
  writeSetRoot : Digest
  plannedEffects : List PlannedEffect
  idempotencyKey : Id
  (validUntilMs requestedAtMs : ℤ)

/-- What the tables outside the store answer to a permit request: the owner authorities read
back for a sealed write set, and the authority assignment of a leased permit. -/
structure PermitEvidence where
  (owners assignment : Tx Unit)

inductive PermitConflict where
  | staleTaskHead (expected current : ℕ)
  | staleEffectHistoryRoot
  | staleRetryFenceEpoch
  | attemptAlreadyHoldsPermit (permitId : Id)
deriving DecidableEq

inductive PermitDecision where
  | issued (permit : PermitRecord)
  | replayed (permit : PermitRecord)
  | superseded (winner : PermitRecord)
  | conflicted (reason : PermitConflict)
  | cancelledBeforeEffect (receiptId : Id)
  | quarantined (quarantineReceiptId : Id)
deriving DecidableEq

def validateHeadBinding (task : TaskRecord) (snapshot : SnapshotBundle) : Option PermitConflict :=
  if snapshot.head.commitSeq ≠ task.head.commitSeq then
    some (.staleTaskHead snapshot.head.commitSeq task.head.commitSeq)
  else if snapshot.head.effectHistoryRoot ≠ task.head.effectHistoryRoot then
    some .staleEffectHistoryRoot
  else if snapshot.head.retryFenceEpoch ≠ task.head.retryFenceEpoch then
    some .staleRetryFenceEpoch
  else none

def checkPlannedEffects (taskId : Id) (taskGeneration : ℕ) : List Digest → List PlannedEffect →
    Tx Unit
  | _, [] => .ok ()
  | seen, planned :: rest => do
    refuseIf (planned.descriptor.taskId ≠ taskId ∨
      planned.descriptor.taskGeneration ≠ taskGeneration)
      (.invalidEffectSet "descriptor is not bound to this task and generation")
    refuseIf (planned.descriptor.logicalEffectId ∈ seen)
      (.invalidEffectSet "duplicate LogicalEffectId inside one effect set")
    checkPlannedEffects taskId taskGeneration (seen ++ [planned.descriptor.logicalEffectId]) rest

def validatePlannedEffects (taskId : Id) (taskGeneration : ℕ)
    (plannedEffects : List PlannedEffect) : Tx Digest := do
  checkPlannedEffects taskId taskGeneration [] plannedEffects
  pure (effectSetRootOf plannedEffects)

def PlannedEffect.slot (planned : PlannedEffect) (permitId taskId : Id) (effectSeq : ℕ) :
    SlotRecord where
  permitId := permitId
  effectSeq := effectSeq
  taskId := taskId
  effectSlotId := deriveEffectSlotId permitId effectSeq
  logicalEffectId := planned.descriptor.logicalEffectId
  idempotencyIdentityDigest := idempotencyIdentityDigest planned.descriptor.logicalEffectId
  required := planned.required
  requiredConditionDigest := planned.requiredConditionDigest
  successCriteriaDigest := planned.successCriteriaDigest
  actionProposalDigest := planned.actionProposalDigest
  state := .planned
  stateSeq := 0
  effectPermitId := none
  effectReceiptId := none
  fiberBinding := none
  fiberGeneration := none

def plannedSlots (permitId taskId : Id) (plannedEffects : List PlannedEffect) : List SlotRecord :=
  plannedEffects.zipIdx.map fun (planned, effectSeq) => planned.slot permitId taskId effectSeq

def closureReceipt (task : TaskRecord) (attempt : AttemptRecord) (receiptId : Id) :
    TaskReceiptRecord where
  receiptId := receiptId
  taskId := task.taskId
  permitId := none
  attemptId := attempt.attemptId
  attemptGeneration := attempt.attemptGeneration
  groupBinding := none
  participantRegistryBinding := none
  outcome := .cancelledBeforeEffect
  prior := task.head
  new := task.head

namespace TaskStore

variable (s : TaskStore)

def replayPermit (existing : PermitRecord) (request : PermitRequest)
    (authorityLease : Option AuthorityLeaseRecord) : Tx PermitDecision := do
  let storedRoot := (s.storedEffectSetRoot existing.permitId).getD (effectSetRootOf [])
  refuseIf (¬ (existing.attemptId = request.attemptId ∧
    existing.attemptGeneration = request.attemptGeneration ∧
    existing.writeSetRoot = request.writeSetRoot ∧ existing.validUntilMs = request.validUntilMs ∧
    storedRoot = effectSetRootOf request.plannedEffects ∧
    existing.authorityLeaseBinding = authorityLease.map AuthorityLeaseRecord.binding))
    .idempotencyConflict
  pure (.replayed existing)

def closeAttempt (task : TaskRecord) (cancelEpoch : ℕ) (attempt : AttemptRecord) :
    Tx (TaskStore × Id) := do
  let receiptId := deriveClosureReceiptId task.taskId attempt.attemptId cancelEpoch
  let s ← s.insertReceipt (closureReceipt task attempt receiptId)
  let s ← s.setAttemptState attempt .cancelled (some receiptId)
  pure (s, receiptId)

def closeAttemptForCancel (task : TaskRecord) (attempt : AttemptRecord) :
    Tx (TaskStore × PermitDecision) := do
  if attempt.state = .cancelled then
    let receiptId ← orRefuse attempt.receiptId
      (.corruptRecord "cancelled attempt lacks closure receipt")
    pure (s, .cancelledBeforeEffect receiptId)
  else
    refuseIf (attempt.state.isOpenCandidate = false) (.invalidAttemptState attempt.state)
    let (s, receiptId) ← s.closeAttempt task task.cancelEpoch attempt
    pure (s, .cancelledBeforeEffect receiptId)

def checkSealedWriteSet (task : TaskRecord) (attempt : AttemptRecord) (request : PermitRequest)
    (owners : Tx Unit) (record : TaskWriteSetRecord) : Tx Unit := do
  refuseIf (record.attemptId ≠ attempt.attemptId ∨
    record.attemptGeneration ≠ attempt.attemptGeneration ∨
    record.snapshotId ≠ attempt.snapshot.snapshotId ∨ record.head ≠ attempt.snapshot.head)
    (.taskWriteSetConflict "sealed TaskWriteSet no longer matches attempt snapshot")
  refuseIf (record.plannedEffects ≠ request.plannedEffects)
    (.taskWriteSetConflict "permit planned effects differ from sealed TaskWriteSet")
  owners
  let currentGroup ← s.currentCommitBinding attempt.attemptId
  refuseIf (record.groupBinding ≠ currentGroup) .membershipConflict
  let registry ← s.inspectRegistry task
  refuseIf (registry.state ≠ .opened ∨ record.participantRegistryBinding ≠ registry.binding)
    .participantRegistryBindingMismatch

def issuePermit (task : TaskRecord) (attempt : AttemptRecord) (request : PermitRequest)
    (evidence : PermitEvidence) (authorityLease : Option AuthorityLeaseRecord) :
    Tx (TaskStore × PermitRecord) := do
  forSome authorityLease fun lease =>
    s.validateAuthorityLeaseBinding lease.binding request.requestedAtMs
  let effectSetRoot ← validatePlannedEffects task.taskId task.taskGeneration request.plannedEffects
  let permitEpoch ← orRefuse (checkedSucc task.permitEpoch) .epochExhausted
  let controlEpoch ← orRefuse (checkedSucc task.controlEpoch) .epochExhausted
  let sealedWriteSet := s.loadWriteSetByRoot request.taskId request.writeSetRoot
  forSome sealedWriteSet (s.checkSealedWriteSet task attempt request evidence.owners)
  let (s, participantRegistryBinding) ← s.freezeForPermit task
  refuseIf (∃ record ∈ sealedWriteSet,
    record.participantRegistryBinding ≠ participantRegistryBinding)
    .participantRegistryBindingMismatch
  forSome authorityLease fun _ => evidence.assignment
  let groupBinding ← s.currentCommitBinding attempt.attemptId
  let record : PermitRecord :=
    { permitId := derivePermitId request.taskId request.idempotencyKey
      taskId := request.taskId
      idempotencyKey := request.idempotencyKey
      attemptId := attempt.attemptId
      attemptGeneration := attempt.attemptGeneration
      expectedHead := attempt.snapshot.head
      writeSetRoot := request.writeSetRoot
      groupBinding := groupBinding
      participantRegistryBinding := some participantRegistryBinding
      authorityLeaseBinding := authorityLease.map AuthorityLeaseRecord.binding
      permitEpoch := permitEpoch
      controlEpoch := controlEpoch
      cancelEpoch := task.cancelEpoch
      validUntilMs := request.validUntilMs
      state := .issued
      createdAtMs := request.requestedAtMs }
  let permits ← orRefuse (insertRow (fun p => p.permitId = record.permitId) record s.permits)
    .storage
  let s :=
    { s with
      permits := permits
      slots := s.slots ++ plannedSlots record.permitId record.taskId request.plannedEffects
      effectSetRoots :=
        if request.plannedEffects.isEmpty then s.effectSetRoots
        else s.effectSetRoots ++ [(record.permitId, effectSetRoot)] }
  let s ← s.setAttemptState attempt .commitPermitted none
  pure (s.updateTask task.taskId fun t =>
    { t with permitEpoch := permitEpoch, controlEpoch := controlEpoch }, record)

def competeForPermit (task : TaskRecord) (attempt : AttemptRecord) (request : PermitRequest)
    (evidence : PermitEvidence) (authorityLease : Option AuthorityLeaseRecord) :
    Tx (TaskStore × PermitDecision) := do
  refuseIf (attempt.state.isOpenCandidate = false) (.invalidAttemptState attempt.state)
  match validateHeadBinding task attempt.snapshot with
  | some reason => do
    let s ← s.setAttemptState attempt .conflicted none
    pure (s, .conflicted reason)
  | none =>
    match s.loadQuarantinedPermit task.taskId with
    | some tombstone => do
      let s ← s.setAttemptState attempt .superseded none
      pure (s, .quarantined (deriveQuarantineReceiptId tombstone.permitId))
    | none =>
      match s.loadActivePermit task.taskId with
      | some active =>
        if active.attemptId = attempt.attemptId then do
          let s ← s.setAttemptState attempt .conflicted none
          pure (s, .conflicted (.attemptAlreadyHoldsPermit active.permitId))
        else do
          let s ← s.setAttemptState attempt .superseded none
          pure (s, .superseded active)
      | none => do
        let (s, record) ← s.issuePermit task attempt request evidence authorityLease
        pure (s, .issued record)

def requestCommitPermit (request : PermitRequest) (evidence : PermitEvidence)
    (authorityLease : Option AuthorityLeaseRecord) : Tx (TaskStore × PermitDecision) := do
  let task ← s.loadTask request.taskId
  match s.loadPermitByKey request.taskId request.idempotencyKey with
  | some existing => do
    let decision ← s.replayPermit existing request authorityLease
    pure (s, decision)
  | none => do
    let attempt ← s.loadAttempt request.taskId request.attemptId
    refuseIf (attempt.attemptGeneration ≠ request.attemptGeneration) .invalidGeneration
    if 0 < task.cancelEpoch then
      s.closeAttemptForCancel task attempt
    else
      refuseIf (s.scaleProfile.maxActiveWorkingSet < s.countIssuedPermits + 1)
        .workingSetAdmissionDenied
      s.competeForPermit task attempt request evidence authorityLease

def listOpenAttempts (taskId : Id) : List AttemptRecord :=
  (s.attempts.filter fun a => a.taskId = taskId ∧ a.state.isOpenCandidate).insertionSort
    fun a b => a.createdAtMs < b.createdAtMs ∨
      (a.createdAtMs = b.createdAtMs ∧ a.attemptId ≤ b.attemptId)

def closeAttempts (task : TaskRecord) (cancelEpoch : ℕ) :
    List AttemptRecord → TaskStore → Tx (TaskStore × List (Id × Id))
  | [], s => .ok (s, [])
  | attempt :: rest, s => do
    let (s, receiptId) ← s.closeAttempt task cancelEpoch attempt
    let (s, closed) ← closeAttempts task cancelEpoch rest s
    pure (s, (attempt.attemptId, receiptId) :: closed)

end TaskStore

inductive CancelDecision where
  | applied (cancelEpoch : ℕ) (closedAttempts : List (Id × Id))
  | replayed (cancelEpoch : ℕ)
  | alreadyCancelled (cancelEpoch : ℕ)
deriving DecidableEq

namespace TaskStore

variable (s : TaskStore)

def cancelTask (taskId idempotencyKey : Id) : Tx (TaskStore × CancelDecision) := do
  let task ← s.loadTask taskId
  match s.cancels.find? fun row => row.1 = taskId with
  | some (_, key, cancelEpochAfter) =>
    pure (s, if key = idempotencyKey then .replayed cancelEpochAfter
      else .alreadyCancelled task.cancelEpoch)
  | none => do
    let cancelEpoch ← orRefuse (checkedSucc task.cancelEpoch) .epochExhausted
    let controlEpoch ← orRefuse (checkedSucc task.controlEpoch) .epochExhausted
    let (s, closed) ← closeAttempts task cancelEpoch (s.listOpenAttempts taskId) s
    let s := s.updateTask taskId fun t =>
      { t with cancelEpoch := cancelEpoch, controlEpoch := controlEpoch, state := .cancelled }
    pure ({ s with cancels := s.cancels ++ [(taskId, idempotencyKey, cancelEpoch)] },
      .applied cancelEpoch closed)

end TaskStore

end Nlos.Task
