import Nlos.Task.Finalize

/-!
# Adoption and reconciliation

A quarantined permit is adopted, its effects of unknown outcome are reconciled one by one, and
the tombstone lifts with the last of them. A terminal operation outcome that arrives late closes
the slot it was dispatched for.
-/

namespace Nlos.Task

open Lib

structure AdoptionRequest where
  (taskId permitId : Id)
  permitEpoch : ℕ
  idempotencyKey : Id
  adoptedAtMs : ℤ

inductive AdoptionReplay where
  | adopted (receipt : AdoptionReceiptRecord)
  | replayed (receipt : AdoptionReceiptRecord)
deriving DecidableEq

structure ReconcileRequest where
  (taskId permitId : Id)
  (permitEpoch effectSeq : ℕ)
  adoptionReceiptId : Id
  outcome : ReconcileOutcome
  closureProofDigest : Digest
  reconciledAtMs : ℤ

inductive ReconcileReplay where
  | reconciled (receipt : ReconciliationReceiptRecord)
  | replayed (receipt : ReconciliationReceiptRecord)
deriving DecidableEq

structure OperationHandle where
  operationId : Id
  generation : ℕ
deriving DecidableEq

inductive OperationState where
  | registered
  | dispatched
  | cancelRequested
  | completed (receiptId : Id)
  | failed (receiptId : Id)
  | cancelledBeforeEffect (receiptId : Id)
  | partialEffect (receiptId : Id)
  | effectUnknown (receiptId : Id)
deriving DecidableEq

def OperationState.completionReceipt : OperationState → Option Id
  | completed receiptId => some receiptId
  | _ => none

structure LateOperationOutcomeRequest where
  operation : OperationHandle
  terminalState : OperationState
  reconciledAtMs : ℤ

inductive LateOperationOutcomeDecision where
  | closed (receipt : EffectReceipt)
  | replayed (receipt : EffectReceipt)
  | noBoundSlot (operation : OperationHandle)
deriving DecidableEq

namespace ReconcileOutcome

def targetState : ReconcileOutcome → SlotState
  | effectClosed => .effectClosed
  | confirmedNoEffect => .confirmedNoEffect
  | effectUnknown => .effectUnknown

/-- What a resolved outcome is recorded as; an outcome that stays unknown records nothing. -/
def resolution : ReconcileOutcome → Option (ReceiptKind × EffectHistoryOutcome)
  | effectClosed => some (.effectClosed, .effectClosed)
  | confirmedNoEffect => some (.confirmedNoEffect, .confirmedNoEffect)
  | effectUnknown => none

end ReconcileOutcome

def lateOperationClosureDigest (operation : OperationHandle) (terminalReceiptId : Id) : Digest :=
  sha256 "llmos/task-late-operation-closure/v1"
    [operation.operationId.bytes, beBytes 8 operation.generation, terminalReceiptId.bytes]

namespace TaskStore

variable (s : TaskStore)

def loadAdoptionByKey (taskId idempotencyKey : Id) : Option AdoptionReceiptRecord :=
  (s.adoptions.find? fun a =>
    a.taskId = taskId ∧ a.idempotencyKey = idempotencyKey ∧ a.crossTerm = none).or
  (s.adoptions.find? fun a => a.taskId = taskId ∧ a.idempotencyKey = idempotencyKey)

def loadAdoptionById (taskId receiptId : Id) : Option AdoptionReceiptRecord :=
  (s.adoptions.find? fun a =>
    a.taskId = taskId ∧ a.receiptId = receiptId ∧ a.crossTerm = none).or
  (s.adoptions.find? fun a => a.taskId = taskId ∧ a.receiptId = receiptId)

def insertAdoption (record : AdoptionReceiptRecord) : Tx TaskStore := do
  let adoptions ← orRefuse
    (insertRow (fun a => a.receiptId = record.receiptId ∧
      a.crossTerm.isSome = record.crossTerm.isSome) record s.adoptions) .storage
  pure { s with adoptions := adoptions }

def adoptionRecord (task : TaskRecord) (permit : PermitRecord) (idempotencyKey : Id)
    (adoptionEpoch : ℕ) (authorityLeaseBinding : Option AuthorityLeaseBinding)
    (crossTerm : Option CrossTermAdoption) : AdoptionReceiptRecord where
  receiptId := deriveAdoptionReceiptId permit.permitId adoptionEpoch
  idempotencyKey := idempotencyKey
  taskId := task.taskId
  taskGeneration := task.taskGeneration
  originalPermitId := permit.permitId
  originalPermitEpoch := permit.permitEpoch
  originalControlEpoch := permit.controlEpoch
  originalCancelEpoch := permit.cancelEpoch
  adoptionEpoch := adoptionEpoch
  authorityLeaseBinding := authorityLeaseBinding
  crossTerm := crossTerm

def writeAdoption (task : TaskRecord) (permit : PermitRecord) (idempotencyKey : Id)
    (authorityLeaseBinding : Option AuthorityLeaseBinding)
    (crossTerm : Option CrossTermAdoption) : Tx (TaskStore × AdoptionReplay) := do
  let (s, adoptionEpoch) ← s.advanceAdoptionEpoch task.taskId
  let record := adoptionRecord task permit idempotencyKey adoptionEpoch authorityLeaseBinding
    crossTerm
  let s ← s.insertAdoption record
  let controlEpoch ← orRefuse (checkedSucc task.controlEpoch) .epochExhausted
  pure (s.updateTask task.taskId fun t => { t with controlEpoch := controlEpoch }, .adopted record)

def adoptPermit (request : AdoptionRequest) (authorityLease : Option AuthorityLeaseRecord) :
    Tx (TaskStore × AdoptionReplay) := do
  let task ← s.loadTask request.taskId
  let permit ← s.loadPermitById request.taskId request.permitId
  match s.loadAdoptionByKey request.taskId request.idempotencyKey with
  | some existing => do
    refuseIf (¬ (existing.originalPermitId = request.permitId ∧
      existing.originalPermitEpoch = request.permitEpoch)) .idempotencyConflict
    pure (s, .replayed existing)
  | none => do
    s.rejectTakeoverFence request.taskId
    refuseIf (permit.state ≠ .quarantined)
      (.invalidReconcileState "only a quarantined permit can be adopted")
    refuseIf (permit.permitEpoch ≠ request.permitEpoch) .permitEpochMismatch
    s.validatePermitAuthorityLease permit request.adoptedAtMs authorityLease
    s.writeAdoption task permit request.idempotencyKey
      (authorityLease.map AuthorityLeaseRecord.binding) none

def adoptPermitAcrossTakeover (request : AdoptionRequest) (takeoverReceiptId : Id)
    (successorLease : AuthorityLeaseRecord) (takeover : CrossTermEvidence) :
    Tx (TaskStore × AdoptionReplay) := do
  let task ← s.loadTask request.taskId
  let permit ← s.loadPermitById request.taskId request.permitId
  match s.loadAdoptionByKey request.taskId request.idempotencyKey with
  | some existing => do
    refuseIf (¬ (existing.crossTerm.map CrossTermAdoption.takeoverReceiptId =
        some takeoverReceiptId ∧ existing.originalPermitId = request.permitId ∧
      existing.originalPermitEpoch = request.permitEpoch ∧
      existing.authorityLeaseBinding = some successorLease.binding)) .idempotencyConflict
    pure (s, .replayed existing)
  | none => do
    refuseIf (s.loadAdoptionByPermit request.taskId request.permitId).isSome
      (.invalidReconcileState "permit already has an adoption receipt")
    refuseIf (permit.state ≠ .quarantined)
      (.invalidReconcileState "only a quarantined permit can be adopted across terms")
    refuseIf (permit.permitEpoch ≠ request.permitEpoch) .permitEpochMismatch
    let current ← s.validateCrossTermAdoptionContext task permit successorLease
      request.adoptedAtMs takeover
    s.writeAdoption task permit request.idempotencyKey (some successorLease.binding)
      (some ⟨takeoverReceiptId, current⟩)

/-! ### Reconciliation -/

def loadLatestReconcileForSlot (permitId : Id) (effectSeq : ℕ) :
    Option ReconciliationReceiptRecord :=
  s.reconciliations.reverse.find? fun r => r.permitId = permitId ∧ r.effectSeq = effectSeq

def replayReconcile (permit : PermitRecord) (slot : SlotRecord) (adoption : AdoptionReceiptRecord)
    (request : ReconcileRequest) : Tx ReconciliationReceiptRecord := do
  let latest ← orRefuse (s.loadLatestReconcileForSlot permit.permitId slot.effectSeq)
    (.invalidReconcileState "slot was never EFFECT_UNKNOWN on this permit")
  refuseIf (¬ (latest.permitAdoptionReceiptId = adoption.receiptId ∧
    latest.outcome = request.outcome ∧
    latest.closureProofDigest = request.closureProofDigest)) .historyConflict
  pure latest

/-- The lease a reconciliation runs under: that of the permit within the term, the successor's
across terms. -/
def checkReconcileAuthority (task : TaskRecord) (permit : PermitRecord)
    (adoption : AdoptionReceiptRecord) (request : ReconcileRequest)
    (authorityLease : Option AuthorityLeaseRecord) (takeover : CrossTermEvidence) : Tx Unit :=
  if adoption.crossTerm.isSome then do
    let _ ← s.validateCrossAdoption task permit adoption request.reconciledAtMs authorityLease
      takeover
    pure ()
  else do
    s.rejectTakeoverFence request.taskId
    refuseIf (adoption.authorityLeaseBinding ≠ permit.authorityLeaseBinding)
      .authorityLeaseBindingMismatch
    s.validatePermitAuthorityLease permit request.reconciledAtMs authorityLease

def reconcileClosureReceipt (slot : SlotRecord) (request : ReconcileRequest) (stateSeq : ℕ)
    (kind : ReceiptKind) : EffectReceipt where
  receiptId := deriveEffectReceiptId "llmos/task-effect-reconcile-closure/v1" slot.effectSlotId
    stateSeq
  taskId := request.taskId
  permitId := request.permitId
  effectSlotId := slot.effectSlotId
  effectSeq := slot.effectSeq
  logicalEffectId := slot.logicalEffectId
  kind := kind
  priorSlotState := .effectUnknown
  noEffectReason := none
  proofDigest := request.closureProofDigest

def applyReconcileOutcome (task : TaskRecord) (slot : SlotRecord) (request : ReconcileRequest) :
    Tx (TaskStore × SlotRecord × Option Id) := do
  let (s, reconciling) ← s.casSlot slot .reconciling none none
  match request.outcome.resolution with
  | none => do
    let (s, updated) ← s.casSlot reconciling request.outcome.targetState none none
    pure (s, updated, none)
  | some (kind, historyOutcome) => do
    let receipt := reconcileClosureReceipt slot request (reconciling.stateSeq + 1) kind
    let s ← s.insertEffectReceipt receipt
    let (s, updated) ← s.casSlot reconciling request.outcome.targetState none
      (some receipt.receiptId)
    let s ← s.appendHistoryEntry task.taskId task.head.retryFenceEpoch updated historyOutcome
      receipt.receiptId none
    pure (s, updated, some receipt.receiptId)

def reconcileRecord (task : TaskRecord) (permit : PermitRecord) (adoption : AdoptionReceiptRecord)
    (slot updated : SlotRecord) (request : ReconcileRequest) (effectReceiptId : Option Id) :
    ReconciliationReceiptRecord where
  receiptId := deriveReconcileReceiptId slot.effectSlotId updated.stateSeq
  taskId := request.taskId
  permitId := permit.permitId
  permitEpoch := permit.permitEpoch
  permitAdoptionReceiptId := adoption.receiptId
  effectSlotId := slot.effectSlotId
  effectSeq := slot.effectSeq
  logicalEffectId := slot.logicalEffectId
  retryFenceEpoch := task.head.retryFenceEpoch
  outcome := request.outcome
  closureProofDigest := request.closureProofDigest
  effectReceiptId := effectReceiptId

def insertReconcileReceipt (record : ReconciliationReceiptRecord) : Tx TaskStore := do
  let reconciliations ← orRefuse
    (insertRow (fun r => r.receiptId = record.receiptId) record s.reconciliations) .storage
  pure { s with reconciliations := reconciliations }

def liftQuarantine (permitId : Id) : Tx TaskStore :=
  if ∃ slot ∈ s.listSlots permitId, slot.state = .effectUnknown then .ok s
  else s.casPermit permitId .quarantined .issued "permit unquarantine compare-and-swap failed"

def reconcileEffect (request : ReconcileRequest) (authorityLease : Option AuthorityLeaseRecord)
    (takeover : CrossTermEvidence) : Tx (TaskStore × ReconcileReplay) := do
  let task ← s.loadTask request.taskId
  let permit ← s.loadPermitById request.taskId request.permitId
  refuseIf (permit.permitEpoch ≠ request.permitEpoch) .permitEpochMismatch
  let adoption ← orRefuse (s.loadAdoptionById request.taskId request.adoptionReceiptId)
    .receiptNotFound
  refuseIf (adoption.originalPermitId ≠ permit.permitId)
    (.invalidReconcileState "adoption receipt does not bind this permit")
  let slot ← s.loadSlot request.permitId request.effectSeq
  if slot.state ≠ .effectUnknown then
    let latest ← s.replayReconcile permit slot adoption request
    pure (s, .replayed latest)
  else
    s.checkReconcileAuthority task permit adoption request authorityLease takeover
    refuseIf (permit.state ≠ .quarantined) (.invalidReconcileState "permit is not quarantined")
    let (s, updated, effectReceiptId) ← s.applyReconcileOutcome task slot request
    let record := reconcileRecord task permit adoption slot updated request effectReceiptId
    let s ← s.insertReconcileReceipt record
    let s ← s.liftQuarantine permit.permitId
    let controlEpoch ← orRefuse (checkedSucc task.controlEpoch) .epochExhausted
    pure (s.updateTask request.taskId fun t => { t with controlEpoch := controlEpoch },
      .reconciled record)

def sealedEndpoints (operation : OperationHandle) : List (TaskWriteSetRecord × ℕ) :=
  s.writeSets.flatMap fun writeSet =>
    (writeSet.operationEndpoints.filter fun e => e.operationId = operation.operationId ∧
      e.generation = operation.generation).map fun e => (writeSet, e.effectSeq)

def bindEndpoints : List (TaskWriteSetRecord × ℕ) → Tx (List (PermitRecord × SlotRecord))
  | [] => .ok []
  | (writeSet, effectSeq) :: rest =>
    match s.loadOutstandingPermit writeSet.taskId with
    | none => bindEndpoints rest
    | some permit =>
      if permit.writeSetRoot ≠ writeSet.writeSetRoot then bindEndpoints rest
      else do
        let slot ← s.loadSlot permit.permitId effectSeq
        let bindings ← bindEndpoints rest
        pure ((permit, slot) :: bindings)

def lateClosureReceipt (task : TaskRecord) (permit : PermitRecord) (slot : SlotRecord)
    (proofDigest : Digest) : EffectReceipt where
  receiptId := deriveEffectReceiptId "llmos/task-effect-late-operation-closure/v1"
    slot.effectSlotId (slot.stateSeq + 1)
  taskId := task.taskId
  permitId := permit.permitId
  effectSlotId := slot.effectSlotId
  effectSeq := slot.effectSeq
  logicalEffectId := slot.logicalEffectId
  kind := .effectClosed
  priorSlotState := .dispatched
  noEffectReason := none
  proofDigest := proofDigest

def applyLateOperationClosure (task : TaskRecord) (permit : PermitRecord) (slot : SlotRecord)
    (operation : OperationHandle) (proofDigest : Digest) : Tx (TaskStore × EffectReceipt) := do
  let receipt := lateClosureReceipt task permit slot proofDigest
  let s ← s.insertEffectReceipt receipt
  let controlEpoch ← orRefuse (checkedSucc task.controlEpoch) .epochExhausted
  let (s, updated) ← s.casSlot slot .effectClosed none (some receipt.receiptId)
  let s ← s.appendHistoryEntry task.taskId task.head.retryFenceEpoch updated .effectClosed
    receipt.receiptId (some operation.operationId)
  pure (s.updateTask task.taskId fun t => { t with controlEpoch := controlEpoch }, receipt)

def replayLateClosure (slot : SlotRecord) (proofDigest : Digest) : Tx EffectReceipt := do
  refuseIf (slot.state ≠ .effectClosed) (.invalidEffectSlotState slot.state)
  let receiptId ← orRefuse slot.effectReceiptId
    (.corruptRecord "closed slot lacks its effect receipt")
  let receipt ← s.loadEffectReceipt receiptId
  refuseIf (receipt.proofDigest ≠ proofDigest) .idempotencyConflict
  pure receipt

def reconcileLateOperationOutcome (request : LateOperationOutcomeRequest)
    (authorityLease : Option AuthorityLeaseRecord) :
    Tx (TaskStore × LateOperationOutcomeDecision) := do
  let terminalReceiptId ← orRefuse request.terminalState.completionReceipt
    (.invalidReconcileState
      "terminal operation state carries no consumable effect-closure evidence")
  let proofDigest := lateOperationClosureDigest request.operation terminalReceiptId
  let bindings ← s.bindEndpoints (s.sealedEndpoints request.operation)
  match bindings with
  | [] => pure (s, .noBoundSlot request.operation)
  | [(permit, slot)] =>
    if slot.state ≠ .dispatched then
      let receipt ← s.replayLateClosure slot proofDigest
      pure (s, .replayed receipt)
    else
      let task ← s.loadTask permit.taskId
      refuseIf (s.hasAdoption permit.permitId) .adoptionScopeViolation
      s.rejectTakeoverFence task.taskId
      s.validatePermitAuthorityLease permit request.reconciledAtMs authorityLease
      let (s, receipt) ← s.applyLateOperationClosure task permit slot request.operation
        proofDigest
      pure (s, .closed receipt)
  | _ => .error (.invalidReconcileState
      "operation handle binds more than one outstanding effect slot")

end TaskStore

end Nlos.Task
