import Nlos.Task.Permit

/-!
# The effect plane

The slots of an issued permit: a planned effect is permitted with a one-shot dispatch token, the
token is consumed by the dispatch, and the outcome of the dispatch is recorded.
-/

namespace Nlos.Task

open Lib

structure EffectPermitRequest where
  (taskId attemptId : Id)
  attemptGeneration : ℕ
  permitId : Id
  (permitEpoch effectSeq : ℕ)
  idempotencyKey : Id
  (validUntilMs requestedAtMs : ℤ)

inductive EffectPermitDecision where
  | issued (permit : IssuedPermit)
  | replayed (permit : IssuedPermit)
deriving DecidableEq

structure DispatchRequest where
  (taskId attemptId : Id)
  attemptGeneration : ℕ
  permitId : Id
  permitEpoch : ℕ
  effectPermitId : Id
  dispatchToken : Digest
  dispatchedAtMs : ℤ

inductive Outcome where
  | closed (authoritativeClosureDigest : Digest)
  | unknown (uncertaintyDigest : Digest)
deriving DecidableEq

namespace Outcome

def targetState : Outcome → SlotState
  | closed _ => .effectClosed
  | unknown _ => .effectUnknown

def proofDigest : Outcome → Digest
  | closed digest | unknown digest => digest

def receiptDomain : Outcome → String
  | closed _ => "llmos/task-effect-closed-receipt/v1"
  | unknown _ => "llmos/task-effect-unknown-receipt/v1"

def receiptKind : Outcome → ReceiptKind
  | closed _ => .effectClosed
  | unknown _ => .effectUnknown

end Outcome

structure OutcomeRequest where
  (taskId attemptId : Id)
  attemptGeneration : ℕ
  permitId : Id
  (permitEpoch effectSeq : ℕ)
  outcome : Outcome
  recordedAtMs : ℤ

structure NoEffectRequest where
  (taskId attemptId : Id)
  attemptGeneration : ℕ
  permitId : Id
  (permitEpoch effectSeq : ℕ)
  reason : NoEffectReason
  dispatchToken : Option Digest
  recordedAtMs : ℤ

inductive EffectReceiptDecision where
  | recorded (receipt : EffectReceipt)
  | replayed (receipt : EffectReceipt)
deriving DecidableEq

structure RegisterEffectBindingRequest where
  (taskId attemptId : Id)
  attemptGeneration : ℕ
  permitId : Id
  (permitEpoch effectSeq : ℕ)
  binding : Id
  fiberGeneration : ℕ
  idempotencyKey : Id
  registeredAtMs : ℤ

inductive EffectBindingDecision where
  | registered (record : EffectFiberRegistrationRecord)
  | replayed (record : EffectFiberRegistrationRecord)

def RegisterEffectBindingRequest.record (request : RegisterEffectBindingRequest)
    (slot : SlotRecord) : EffectFiberRegistrationRecord where
  registrationId := sha256Prefix16 "llmos/task-effect-fiber-registration/v1"
    [request.permitId.bytes, beBytes 8 request.effectSeq, request.binding.bytes,
      beBytes 8 request.fiberGeneration, request.idempotencyKey.bytes]
  taskId := request.taskId
  permitId := request.permitId
  effectSlotId := slot.effectSlotId
  effectSeq := slot.effectSeq
  logicalEffectId := slot.logicalEffectId
  binding := request.binding
  fiberGeneration := request.fiberGeneration
  idempotencyKey := request.idempotencyKey
  registeredAtMs := request.registeredAtMs
  slotState := slot.state
  effectReceiptId := slot.effectReceiptId

/-- A permit past its validity is refused; the last valid instant is included. -/
def checkEffectPermitTtl (permitId : Id) (validUntilMs observedMs : ℤ) : Tx Unit :=
  refuseIf (validUntilMs < observedMs)
    (.permitExpired permitId (max validUntilMs 0) (max observedMs 0))

def buildNoEffectReceipt (slot : SlotRecord) (request : NoEffectRequest) : EffectReceipt where
  receiptId := deriveEffectReceiptId "llmos/task-no-effect-receipt/v1" slot.effectSlotId
    (slot.stateSeq + 1)
  taskId := request.taskId
  permitId := request.permitId
  effectSlotId := slot.effectSlotId
  effectSeq := slot.effectSeq
  logicalEffectId := slot.logicalEffectId
  kind := .noEffect
  priorSlotState := slot.state
  noEffectReason := some request.reason
  proofDigest := sha256 "llmos/task-no-effect-proof/v1"
    [slot.effectSlotId.bytes, beBytes 8 slot.stateSeq, (request.dispatchToken.getD 0).bytes]

namespace TaskStore

variable (s : TaskStore)

def checkHolder (taskId attemptId : Id) (attemptGeneration : ℕ) (permitId : Id)
    (permitEpoch : ℕ) : Tx (TaskRecord × PermitRecord) := do
  let task ← s.loadTask taskId
  let permit ← s.loadPermitById taskId permitId
  let attempt ← s.loadAttempt taskId attemptId
  refuseIf (attempt.attemptGeneration ≠ attemptGeneration) .invalidGeneration
  refuseIf (permit.state ≠ .issued) .permitNotIssued
  refuseIf (permit.attemptId ≠ attempt.attemptId ∨
    permit.attemptGeneration ≠ attempt.attemptGeneration) .notPermitHolder
  refuseIf (permit.permitEpoch ≠ permitEpoch) .permitEpochMismatch
  pure (task, permit)

def checkCommitContext (attemptId : Id) (task : TaskRecord) (permit : PermitRecord) : Tx Unit := do
  refuseIf (task.head ≠ permit.expectedHead) .staleTaskHead
  s.validateCommitBinding attemptId permit.groupBinding
  let _ ← s.validateFrozenBinding task permit.participantRegistryBinding
  pure ()

def loadEffectPermitByKey (taskId idempotencyKey : Id) : Option IssuedPermit :=
  s.effectPermits.find? fun p => p.taskId = taskId ∧ p.idempotencyKey = idempotencyKey

def loadEffectPermitById (taskId effectPermitId : Id) : Tx IssuedPermit :=
  orRefuse (s.effectPermits.find? fun p => p.taskId = taskId ∧ p.effectPermitId = effectPermitId)
    .effectPermitNotFound

def loadDispatchTokenDigest (effectPermitId : Id) : Tx Digest := do
  let permit ← orRefuse (s.effectPermits.find? fun p => p.effectPermitId = effectPermitId)
    .effectPermitNotFound
  pure (dispatchTokenDigest permit.oneShotDispatchToken)

def replayEffectPermit (existing : IssuedPermit) (request : EffectPermitRequest) :
    Tx EffectPermitDecision := do
  let parent ← s.loadPermitById request.taskId existing.permitId
  refuseIf (existing.participantRegistryBinding ≠ parent.participantRegistryBinding)
    .participantRegistryBindingMismatch
  refuseIf (¬ (existing.permitId = request.permitId ∧ existing.attemptId = request.attemptId ∧
    existing.attemptGeneration = request.attemptGeneration ∧
    existing.effectSeq = request.effectSeq ∧ existing.validUntilMs = request.validUntilMs))
    .idempotencyConflict
  pure (.replayed existing)

/-- `owners` is the answer of the Operation and Channel authorities for the sealed endpoints. -/
def requestEffectPermit (request : EffectPermitRequest) (owners : Tx Unit)
    (authorityLease : Option AuthorityLeaseRecord) : Tx (TaskStore × EffectPermitDecision) :=
  match s.loadEffectPermitByKey request.taskId request.idempotencyKey with
  | some existing => do
    let decision ← s.replayEffectPermit existing request
    pure (s, decision)
  | none => do
    let (task, permit) ← s.checkHolder request.taskId request.attemptId
      request.attemptGeneration request.permitId request.permitEpoch
    s.checkCommitContext request.attemptId task permit
    refuseIf (task.cancelEpoch ≠ permit.cancelEpoch) (.cancellationCommitted task.cancelEpoch)
    refuseIf (s.hasAdoption request.permitId) .adoptionScopeViolation
    checkEffectPermitTtl (deriveEffectPermitId request.permitId request.idempotencyKey)
      request.validUntilMs request.requestedAtMs
    s.validatePermitAuthorityLease permit request.requestedAtMs authorityLease
    let slot ← s.loadSlot request.permitId request.effectSeq
    refuseIf (slot.state ≠ .planned) (.invalidEffectSlotState slot.state)
    refuseIf (s.isEffectClosedInHistory request.taskId slot.logicalEffectId)
      .effectAlreadyClosed
    owners
    let effectPermitId := deriveEffectPermitId request.permitId request.idempotencyKey
    let token := deriveDispatchToken effectPermitId request.attemptId request.attemptGeneration
    let controlEpoch ← orRefuse (checkedSucc task.controlEpoch) .epochExhausted
    let effectSetRoot ← orRefuse (s.storedEffectSetRoot request.permitId)
      (.corruptRecord "effect slot exists without its effect-set control row")
    let record : IssuedPermit :=
      { effectPermitId := effectPermitId
        idempotencyKey := request.idempotencyKey
        permitId := request.permitId
        permitEpoch := permit.permitEpoch
        taskId := request.taskId
        attemptId := request.attemptId
        attemptGeneration := request.attemptGeneration
        effectSlotId := slot.effectSlotId
        effectSeq := slot.effectSeq
        logicalEffectId := slot.logicalEffectId
        retryFenceEpoch := task.head.retryFenceEpoch
        idempotencyIdentityDigest := slot.idempotencyIdentityDigest
        effectSetRoot := effectSetRoot
        actionProposalDigest := slot.actionProposalDigest
        participantRegistryBinding := permit.participantRegistryBinding
        controlEpoch := controlEpoch
        cancelEpoch := task.cancelEpoch
        oneShotDispatchToken := token
        validUntilMs := request.validUntilMs }
    let effectPermits ← orRefuse
      (insertRow (fun p => p.effectPermitId = effectPermitId) record s.effectPermits) .storage
    let (s, _) ← { s with effectPermits := effectPermits }.casSlot slot .permitted
      (some effectPermitId) none
    pure (s.updateTask request.taskId fun t => { t with controlEpoch := controlEpoch },
      .issued record)

def consumeDispatchToken (request : DispatchRequest)
    (authorityLease : Option AuthorityLeaseRecord) : Tx (TaskStore × SlotRecord) := do
  let (task, permit) ← s.checkHolder request.taskId request.attemptId request.attemptGeneration
    request.permitId request.permitEpoch
  s.checkCommitContext request.attemptId task permit
  refuseIf (s.hasAdoption request.permitId) .adoptionScopeViolation
  let effectPermit ← s.loadEffectPermitById request.taskId request.effectPermitId
  refuseIf (effectPermit.permitId ≠ request.permitId) .effectPermitNotFound
  refuseIf (permit.participantRegistryBinding = none) .participantRegistryBindingMissing
  refuseIf (effectPermit.participantRegistryBinding ≠ permit.participantRegistryBinding)
    .participantRegistryBindingMismatch
  checkEffectPermitTtl effectPermit.effectPermitId effectPermit.validUntilMs request.dispatchedAtMs
  s.validatePermitAuthorityLease permit request.dispatchedAtMs authorityLease
  let slot ← s.loadSlot request.permitId effectPermit.effectSeq
  let presented := dispatchTokenDigest request.dispatchToken
  let stored ← s.loadDispatchTokenDigest request.effectPermitId
  match slot.state with
    | .permitted => do
      refuseIf (presented ≠ stored) .dispatchTokenMismatch
      refuseIf (task.cancelEpoch ≠ effectPermit.cancelEpoch)
        (.cancellationCommitted task.cancelEpoch)
    | .dispatched => .error (if presented = stored then .dispatchTokenConsumed
        else .dispatchTokenMismatch)
    | other => .error (.invalidEffectSlotState other)
  let controlEpoch ← orRefuse (checkedSucc task.controlEpoch) .epochExhausted
  let (s, updated) ← s.casSlot slot .dispatched none none
  pure (s.updateTask request.taskId fun t => { t with controlEpoch := controlEpoch }, updated)

def replayOutcome (slot : SlotRecord) (outcome : Outcome) : Tx EffectReceiptDecision := do
  refuseIf (slot.state ≠ outcome.targetState) (.invalidEffectSlotState slot.state)
  let receiptId ← orRefuse slot.effectReceiptId
    (.corruptRecord "closed slot lacks its effect receipt")
  let receipt ← s.loadEffectReceipt receiptId
  refuseIf (receipt.proofDigest ≠ outcome.proofDigest) .idempotencyConflict
  pure (.replayed receipt)

def appendOutcomeHistory (task : TaskRecord) (updated : SlotRecord) (outcome : Outcome)
    (receiptId : Id) : Tx TaskStore :=
  match outcome with
  | .closed _ =>
    s.appendHistoryEntry task.taskId task.head.retryFenceEpoch updated .effectClosed receiptId
      none
  | .unknown _ => .ok s

def recordEffectOutcome (request : OutcomeRequest)
    (authorityLease : Option AuthorityLeaseRecord) : Tx (TaskStore × EffectReceiptDecision) := do
  let (task, permit) ← s.checkHolder request.taskId request.attemptId request.attemptGeneration
    request.permitId request.permitEpoch
  let slot ← s.loadSlot request.permitId request.effectSeq
  if slot.state ≠ .dispatched then
    let decision ← s.replayOutcome slot request.outcome
    pure (s, decision)
  else
    refuseIf (s.hasAdoption request.permitId) .adoptionScopeViolation
    s.checkCommitContext request.attemptId task permit
    s.validatePermitAuthorityLease permit request.recordedAtMs authorityLease
    let receipt : EffectReceipt :=
      { receiptId := deriveEffectReceiptId request.outcome.receiptDomain slot.effectSlotId
          (slot.stateSeq + 1)
        taskId := request.taskId
        permitId := request.permitId
        effectSlotId := slot.effectSlotId
        effectSeq := slot.effectSeq
        logicalEffectId := slot.logicalEffectId
        kind := request.outcome.receiptKind
        priorSlotState := slot.state
        noEffectReason := none
        proofDigest := request.outcome.proofDigest }
    let s ← s.insertEffectReceipt receipt
    let controlEpoch ← orRefuse (checkedSucc task.controlEpoch) .epochExhausted
    let (s, updated) ← s.casSlot slot request.outcome.targetState none (some receipt.receiptId)
    let s ← s.appendOutcomeHistory task updated request.outcome receipt.receiptId
    pure (s.updateTask request.taskId fun t => { t with controlEpoch := controlEpoch },
      .recorded receipt)

def checkUnconsumedToken (slot : SlotRecord) (dispatchToken : Option Digest) : Tx Unit :=
  match slot.state with
  | .planned => refuseIf dispatchToken.isSome .dispatchTokenMismatch
  | .permitted => do
    let presented ← orRefuse dispatchToken .dispatchTokenMismatch
    let effectPermitId ← orRefuse slot.effectPermitId
      (.corruptRecord "permitted slot lacks its effect permit")
    let stored ← s.loadDispatchTokenDigest effectPermitId
    refuseIf (dispatchTokenDigest presented ≠ stored) .dispatchTokenMismatch
  | other => .error (.invalidEffectSlotState other)

def replayNoEffect (slot : SlotRecord) (reason : NoEffectReason) : Tx EffectReceiptDecision := do
  let receiptId ← orRefuse slot.effectReceiptId
    (.corruptRecord "no-effect slot lacks its effect receipt")
  let receipt ← s.loadEffectReceipt receiptId
  refuseIf (receipt.noEffectReason ≠ some reason) .idempotencyConflict
  pure (.replayed receipt)

def recordNoEffect (request : NoEffectRequest) (authorityLease : Option AuthorityLeaseRecord) :
    Tx (TaskStore × EffectReceiptDecision) := do
  let (task, permit) ← s.checkHolder request.taskId request.attemptId request.attemptGeneration
    request.permitId request.permitEpoch
  let slot ← s.loadSlot request.permitId request.effectSeq
  if slot.state = .noEffect then
    let decision ← s.replayNoEffect slot request.reason
    pure (s, decision)
  else
    s.checkUnconsumedToken slot request.dispatchToken
    refuseIf (request.reason = .conditionNotApplicable ∧ slot.requiredConditionDigest = none)
      .conditionNotBound
    refuseIf (s.hasAdoption request.permitId) .adoptionScopeViolation
    s.checkCommitContext request.attemptId task permit
    s.validatePermitAuthorityLease permit request.recordedAtMs authorityLease
    let receipt := buildNoEffectReceipt slot request
    let s ← s.insertEffectReceipt receipt
    let controlEpoch ← orRefuse (checkedSucc task.controlEpoch) .epochExhausted
    let (s, _) ← s.casSlot slot .noEffect none (some receipt.receiptId)
    pure (s.updateTask request.taskId fun t => { t with controlEpoch := controlEpoch },
      .recorded receipt)

/-- The registrations, each joined with the slot it is about. -/
def effectRegistrations : List EffectFiberRegistrationRecord :=
  s.fiberRegistrations.filterMap fun row =>
    (s.slots.find? fun slot => slot.key = (row.permitId, row.effectSeq)).map fun slot =>
      { row with slotState := slot.state, effectReceiptId := slot.effectReceiptId }

def loadEffectRegistrationByKey (taskId idempotencyKey : Id) :
    Option EffectFiberRegistrationRecord :=
  s.effectRegistrations.find? fun r => r.taskId = taskId ∧ r.idempotencyKey = idempotencyKey

def loadEffectRegistrationByIdentity (permitId : Id) (effectSeq : ℕ) (binding : Id) :
    Option EffectFiberRegistrationRecord :=
  s.effectRegistrations.find? fun r =>
    r.permitId = permitId ∧ r.effectSeq = effectSeq ∧ r.binding = binding

def insertEffectRegistration (record : EffectFiberRegistrationRecord) : Tx TaskStore := do
  refuseIf (record.registeredAtMs < 0) .storage
  let registrations ← orRefuse (insertRow (fun r => r.registrationId = record.registrationId ∨
    r.permitId = record.permitId ∧ r.effectSeq = record.effectSeq ∧ r.binding = record.binding ∨
    r.taskId = record.taskId ∧ r.idempotencyKey = record.idempotencyKey) record
    s.fiberRegistrations) .storage
  pure { s with fiberRegistrations := registrations }

/-- A fiber is named for a slot before its effect is initiated. -/
def registerEffectBinding (request : RegisterEffectBindingRequest)
    (authorityLease : Option AuthorityLeaseRecord) : Tx (TaskStore × EffectBindingDecision) := do
  refuseIf (request.binding = 0) .invalidFiberBinding
  match s.loadEffectRegistrationByKey request.taskId request.idempotencyKey with
  | some existing => do
    refuseIf (¬ (existing.taskId = request.taskId ∧ existing.permitId = request.permitId ∧
      existing.effectSeq = request.effectSeq ∧ existing.binding = request.binding ∧
      existing.fiberGeneration = request.fiberGeneration)) .idempotencyConflict
    pure (s, .replayed existing)
  | none => do
    let (_, permit) ← s.checkHolder request.taskId request.attemptId request.attemptGeneration
      request.permitId request.permitEpoch
    let slot ← s.loadSlot request.permitId request.effectSeq
    refuseIf (¬ (slot.state = .planned ∨ slot.state = .permitted))
      (.invalidEffectSlotState slot.state)
    match slot.fiberBinding, slot.fiberGeneration with
    | some binding, some generation => do
      refuseIf (¬ (binding = request.binding ∧ generation = request.fiberGeneration))
        .effectBindingConflict
      let existing ← orRefuse (s.loadEffectRegistrationByIdentity request.permitId
        request.effectSeq request.binding)
        (.corruptRecord "effect slot carries a binding without its registration receipt")
      pure (s, .replayed existing)
    | _, _ => do
      refuseIf (s.hasAdoption request.permitId) .adoptionScopeViolation
      s.validatePermitAuthorityLease permit request.registeredAtMs authorityLease
      let s ← s.casFiberBinding slot request.binding request.fiberGeneration
      let s ← s.insertEffectRegistration (request.record slot)
      pure (s, .registered (request.record slot))

end TaskStore

end Nlos.Task
