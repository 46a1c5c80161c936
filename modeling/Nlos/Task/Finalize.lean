import Nlos.Task.Effect

/-!
# Terminating a permit

An issued permit ends in one terminal receipt: a commit that advances the head of the task, or a
closure before any effect that leaves it. A permit with an effect of unknown outcome is
quarantined instead.
-/

namespace Nlos.Task

open Lib

structure FinalizeRequest where
  (taskId attemptId : Id)
  attemptGeneration : ℕ
  permitId : Id
  newEffectHistoryRoot : Digest
  newRetryFenceEpoch : ℕ
  finalizedAtMs : ℤ

inductive RequiredSatisfactionProof where
  | effectClosedSuccess (successAssertionDigest : Digest)
  | conditionNotApplicable (conditionFalseProofDigest : Digest)
deriving DecidableEq

structure RequiredSatisfaction where
  effectSeq : ℕ
  proof : RequiredSatisfactionProof
deriving DecidableEq

structure FinalizeRequestV3 where
  base : FinalizeRequest
  requiredSatisfaction : List RequiredSatisfaction
  fencedParticipantDigest : Digest

/-- `quarantined` is the refusal that is returned after the tombstone has been committed. -/
inductive FinalizeDecision where
  | committed (receipt : TaskReceiptRecord)
  | replayed (receipt : TaskReceiptRecord)
  | quarantined (receipt : QuarantineReceiptRecord)
deriving DecidableEq

structure ClosePermitRequest where
  (taskId attemptId : Id)
  attemptGeneration : ℕ
  permitId : Id
  outcome : PermitClosureOutcome
  fencedParticipantDigest : Digest
  closedAtMs : ℤ

inductive ClosePermitDecision where
  | closed (receipt : TaskReceiptRecord)
  | replayed (receipt : TaskReceiptRecord)
  | quarantined (receipt : QuarantineReceiptRecord)
  | replayedQuarantine (receipt : QuarantineReceiptRecord)
deriving DecidableEq

/-- The answers of the tables outside this model: the completed takeover a cross-term adoption
rests on, the semantic and resource plans, and the authority assignments. -/
structure TerminalEvidence where
  takeover : CrossTermEvidence
  (plans assignment : Tx Unit)

def RequiredSatisfaction.bytes (satisfaction : RequiredSatisfaction) : List UInt8 :=
  beBytes 8 satisfaction.effectSeq ++
    match satisfaction.proof with
    | .effectClosedSuccess digest => 0 :: digest.bytes
    | .conditionNotApplicable digest => 1 :: digest.bytes

def finalizeProofDigestOf (satisfactions : List RequiredSatisfaction) : Digest :=
  sha256 "llmos/task-finalize-proofs/v1" (satisfactions.map RequiredSatisfaction.bytes)

def quarantineRecord (task : TaskRecord) (permit : PermitRecord) (slots : List SlotRecord)
    (firstUnknown : SlotRecord) (fencedParticipantDigest : Digest) : QuarantineReceiptRecord where
  receiptId := deriveQuarantineReceiptId permit.permitId
  taskId := task.taskId
  permitId := permit.permitId
  permitEpoch := permit.permitEpoch
  outstandingEffectQuarantineRoot := sha256 "llmos/task-effect-quarantine-outstanding/v1" <|
    (slots.filter fun slot => slot.state = .effectUnknown).map fun slot =>
      beBytes 8 slot.effectSeq ++ slot.logicalEffectId.bytes
  conflictingTargetDigest := sha256 "llmos/task-quarantine-target/v1"
    [firstUnknown.effectSlotId.bytes, firstUnknown.logicalEffectId.bytes]
  knownEffectReceipts := slots.filterMap SlotRecord.effectReceiptId
  unknownSlots := (slots.filter fun slot => slot.state = .effectUnknown).map SlotRecord.effectSeq
  fencedParticipantDigest := fencedParticipantDigest

def terminalReceipt (receiptId : Id) (task : TaskRecord) (permit : PermitRecord)
    (attempt : AttemptRecord) (registryBinding : Option ParticipantRegistryBinding)
    (outcome : ReceiptOutcome) (new : Head) : TaskReceiptRecord where
  receiptId := receiptId
  taskId := task.taskId
  permitId := some permit.permitId
  attemptId := attempt.attemptId
  attemptGeneration := attempt.attemptGeneration
  groupBinding := permit.groupBinding
  participantRegistryBinding := registryBinding
  outcome := outcome
  prior := task.head
  new := new

structure RequiredEvaluation where
  satisfiedCount : ℕ
  unsatisfied : List ℕ
deriving DecidableEq

def RequiredEvaluation.add (evaluation : RequiredEvaluation) (effectSeq : ℕ)
    (satisfied : Bool) : RequiredEvaluation :=
  if satisfied then { evaluation with satisfiedCount := evaluation.satisfiedCount + 1 }
  else { evaluation with unsatisfied := effectSeq :: evaluation.unsatisfied }

def checkDistinctProofs (seen : List ℕ) : List RequiredSatisfaction → Tx Unit
  | [] => .ok ()
  | satisfaction :: rest => do
    refuseIf (satisfaction.effectSeq ∈ seen) (.requiredEffectUnsatisfied satisfaction.effectSeq
      "duplicate satisfaction proof for one slot")
    checkDistinctProofs (satisfaction.effectSeq :: seen) rest

def SlotState.unsatisfiedReason : SlotState → String
  | noEffect => "this no-effect reason cannot satisfy a required slot"
  | confirmedNoEffect => "CONFIRMED_NO_EFFECT never satisfies a required slot"
  | effectClosed => "condition proof presented for an effect-closed slot"
  | _ => "non-terminal slot cannot satisfy a required slot"

namespace TaskStore

variable (s : TaskStore)

def validateEffectClosedSuccess (slot : SlotRecord) (successAssertionDigest : Digest) :
    Tx Unit := do
  let receiptId ← orRefuse slot.effectReceiptId
    (.corruptRecord "effect-closed slot lacks its effect receipt")
  let receipt ← s.loadEffectReceipt receiptId
  refuseIf (¬ (receipt.kind = .effectClosed ∧ receipt.noEffectReason = none ∧
      receipt.taskId = slot.taskId ∧ receipt.permitId = slot.permitId ∧
      receipt.effectSlotId = slot.effectSlotId ∧ receipt.effectSeq = slot.effectSeq ∧
      receipt.logicalEffectId = slot.logicalEffectId) ∨
    successAssertionDigest ≠ expectedSuccessAssertionDigest slot receipt)
    (.requiredEffectUnsatisfied slot.effectSeq
      "success proof does not match the slot contract and closure receipt")

def validateConditionNotApplicable (snapshotDigest : Digest) (slot : SlotRecord)
    (conditionFalseProofDigest : Digest) : Tx Unit := do
  let receiptId ← orRefuse slot.effectReceiptId
    (.corruptRecord "no-effect slot lacks its effect receipt")
  let receipt ← s.loadEffectReceipt receiptId
  refuseIf (receipt.noEffectReason ≠ some .conditionNotApplicable)
    (.requiredEffectUnsatisfied slot.effectSeq
      "slot no-effect reason is not CONDITION_NOT_APPLICABLE")
  let conditionDigest ← orRefuse slot.requiredConditionDigest
    (.requiredEffectUnsatisfied slot.effectSeq
      "condition proof presented for an unconditional required slot")
  refuseIf (conditionFalseProofDigest ≠ expectedConditionFalseProof snapshotDigest conditionDigest)
    (.requiredEffectUnsatisfied slot.effectSeq
      "condition-false proof does not match the snapshot-bound digest")

def validateSlotProof (snapshotDigest : Digest) (slot : SlotRecord)
    (proof : RequiredSatisfactionProof) : Tx Unit :=
  match slot.state, proof with
  | .effectClosed, .effectClosedSuccess digest => s.validateEffectClosedSuccess slot digest
  | .noEffect, .conditionNotApplicable digest =>
    s.validateConditionNotApplicable snapshotDigest slot digest
  | state, _ => .error (.requiredEffectUnsatisfied slot.effectSeq state.unsatisfiedReason)

def evaluateSlot (snapshotDigest : Digest) (slot : SlotRecord) :
    Option RequiredSatisfactionProof → Tx Bool
  | none => .ok false
  | some proof => do
    s.validateSlotProof snapshotDigest slot proof
    pure true

def evaluateSlots (snapshotDigest : Digest) : List SlotRecord → List RequiredSatisfaction →
    Tx (RequiredEvaluation × List RequiredSatisfaction)
  | [], proofs => .ok (⟨0, []⟩, proofs)
  | slot :: rest, proofs => do
    let presented := proofs.find? fun p => p.effectSeq = slot.effectSeq
    let satisfied ← s.evaluateSlot snapshotDigest slot
      (presented.map RequiredSatisfaction.proof)
    let (evaluation, unused) ← evaluateSlots snapshotDigest rest
      (proofs.filter fun p => p.effectSeq ≠ slot.effectSeq)
    pure (evaluation.add slot.effectSeq satisfied, unused)

def evaluateRequired (slots : List SlotRecord) (snapshotDigest : Digest)
    (requiredSatisfaction : List RequiredSatisfaction) : Tx RequiredEvaluation := do
  checkDistinctProofs [] requiredSatisfaction
  let (evaluation, unused) ← s.evaluateSlots snapshotDigest
    (slots.filter fun slot => slot.required) requiredSatisfaction
  match (unused.map RequiredSatisfaction.effectSeq).min? with
  | some effectSeq => .error (.requiredEffectUnsatisfied effectSeq
      "satisfaction proof presented for a non-required or unknown slot")
  | none => pure evaluation

/-- Registers the tombstone of a permit, or finds the one that is already there. -/
def quarantinePermit (task : TaskRecord) (permit : PermitRecord)
    (fencedParticipantDigest : Digest) : Tx (TaskStore × QuarantineReceiptRecord) :=
  match s.quarantines.find? fun q => q.permitId = permit.permitId with
  | some existing => do
    refuseIf (existing.fencedParticipantDigest ≠ fencedParticipantDigest) .historyConflict
    pure (s, existing)
  | none => do
    let slots := s.listSlots permit.permitId
    let firstUnknown ← orRefuse (slots.find? fun slot => slot.state = .effectUnknown)
      (.invalidReconcileState "quarantine requires at least one EFFECT_UNKNOWN slot")
    let record := quarantineRecord task permit slots firstUnknown fencedParticipantDigest
    let quarantines ← orRefuse
      (insertRow (fun q => q.receiptId = record.receiptId) record s.quarantines) .storage
    let s ← { s with quarantines := quarantines }.casPermit permit.permitId .issued .quarantined
      "permit quarantine compare-and-swap failed"
    pure (s, record)

def quarantineDecision (task : TaskRecord) (permit : PermitRecord)
    (fencedParticipantDigest : Digest) (bumpControlEpoch : Bool) :
    Tx (TaskStore × QuarantineReceiptRecord) := do
  let (s, record) ← s.quarantinePermit task permit fencedParticipantDigest
  if bumpControlEpoch then
    let controlEpoch ← orRefuse (checkedSucc task.controlEpoch) .epochExhausted
    pure (s.updateTask task.taskId fun t => { t with controlEpoch := controlEpoch }, record)
  else
    pure (s, record)

/-- The registry binding a terminal receipt carries: that of the permit, or the current one of
the completed takeover when the permit was adopted across terms. -/
def effectiveRegistryBinding (task : TaskRecord) (permit : PermitRecord)
    (adoption : Option AdoptionReceiptRecord) (nowMs : ℤ)
    (authorityLease : Option AuthorityLeaseRecord) (takeover : CrossTermEvidence) :
    Tx (Option ParticipantRegistryBinding) :=
  if permit.state ≠ .issued then .ok none
  else
    match adoption.filter fun a => a.crossTerm.isSome with
    | some crossAdoption => do
      let current ← s.validateCrossAdoption task permit crossAdoption nowMs authorityLease takeover
      pure (some current)
    | none => do
      s.validatePermitAuthorityLease permit nowMs authorityLease
      pure permit.participantRegistryBinding

def replayRegistryBinding (permit : PermitRecord) (adoption : Option AdoptionReceiptRecord) :
    Option ParticipantRegistryBinding :=
  ((adoption.bind AdoptionReceiptRecord.crossTerm).map
    CrossTermAdoption.currentParticipantRegistryBinding).or permit.participantRegistryBinding

/-- The group position and, within the term, the frozen registry still match the permit. -/
def checkTerminalContext (task : TaskRecord) (permit : PermitRecord) (attempt : AttemptRecord)
    (adoption : Option AdoptionReceiptRecord) : Tx Unit := do
  s.validateCommitBinding attempt.attemptId permit.groupBinding
  if (adoption.bind AdoptionReceiptRecord.crossTerm).isSome then
    pure ()
  else
    let _ ← s.validateFrozenBinding task permit.participantRegistryBinding
    pure ()

def countBlocking (permitId : Id) : ℕ :=
  (s.listSlots permitId).countP fun slot => slot.state.blocksFinalization

def insertFinalizeProof (receiptId : Id) : Option Digest → Tx TaskStore
  | none => .ok s
  | some proofDigest => do
    let proofs ← orRefuse
      (insertRow (fun row => row.1 = receiptId) (receiptId, proofDigest) s.finalizeProofs) .storage
    pure { s with finalizeProofs := proofs }

/-- The writes every terminal transaction makes: the receipt, the finalize proof of a v3 commit,
the closed permit, the registry a closure reopens, the attempt and the head. -/
def writeTerminal (task : TaskRecord) (permit : PermitRecord) (attempt : AttemptRecord)
    (receipt : TaskReceiptRecord) (finalizeProof : Option Digest)
    (reopened : Option ParticipantRegistryBinding) (attemptState : AttemptState)
    (controlEpoch : ℕ) : Tx TaskStore := do
  let s ← s.insertReceipt receipt
  let s ← s.insertFinalizeProof receipt.receiptId finalizeProof
  let s ← s.closePermitRow permit.permitId
  let s ← s.reopenRegistryOnPermitClosure task reopened
  let s ← s.setAttemptState attempt attemptState (some receipt.receiptId)
  pure (s.updateTask task.taskId fun t =>
    { t with head := receipt.new, controlEpoch := controlEpoch })

def replayFinalize (permit : PermitRecord) (request : FinalizeRequestV3)
    (registryBinding : Option ParticipantRegistryBinding) : Tx TaskReceiptRecord := do
  let receipt ← orRefuse (s.loadReceiptByPermit permit.taskId permit.permitId) .permitNotIssued
  refuseIf (receipt.participantRegistryBinding ≠ registryBinding)
    .participantRegistryBindingMismatch
  refuseIf (receipt.outcome = .failedBeforeEffect ∨ receipt.outcome = .cancelledBeforeEffect)
    .permitNotIssued
  refuseIf (receipt.attemptId ≠ request.base.attemptId ∨
    receipt.attemptGeneration ≠ request.base.attemptGeneration) .idempotencyConflict
  match s.finalizeProofs.find? fun row => row.1 = receipt.receiptId with
    | some row =>
      refuseIf (row.2 ≠ finalizeProofDigestOf request.requiredSatisfaction) .historyConflict
    | none =>
      refuseIf (receipt.new.effectHistoryRoot ≠ request.base.newEffectHistoryRoot ∨
        receipt.new.retryFenceEpoch ≠ request.base.newRetryFenceEpoch ∨
        request.requiredSatisfaction ≠ []) .idempotencyConflict
  pure receipt

/-- The commit without satisfaction proofs: the caller names the new root and fence. -/
def finalizeLegacy (task : TaskRecord) (permit : PermitRecord) (attempt : AttemptRecord)
    (request : FinalizeRequest) : Tx (TaskStore × TaskReceiptRecord) := do
  refuseIf (0 < s.countBlocking permit.permitId)
    (.outstandingEffectSlots (s.countBlocking permit.permitId))
  refuseIf (request.newRetryFenceEpoch < task.head.retryFenceEpoch) .fenceRegression
  let commitSeq ← orRefuse (checkedSucc task.head.commitSeq) .epochExhausted
  let controlEpoch ← orRefuse (checkedSucc task.controlEpoch) .epochExhausted
  let receipt := terminalReceipt (deriveCommitReceiptId permit.permitId) task permit attempt
    permit.participantRegistryBinding .committed
    ⟨commitSeq, request.newEffectHistoryRoot, request.newRetryFenceEpoch⟩
  let s ← s.writeTerminal task permit attempt receipt none none .committed controlEpoch
  pure (s, receipt)

def appendPartialEntries (taskId : Id) (newFence : ℕ) (slots : List SlotRecord) :
    List ℕ → TaskStore → Tx TaskStore
  | [], s => .ok s
  | effectSeq :: rest, s => do
    let slot ← orRefuse (slots.find? fun slot => slot.effectSeq = effectSeq) .effectSlotNotFound
    let receiptId ← orRefuse slot.effectReceiptId
      (.corruptRecord "terminal slot lacks its receipt")
    let s ← s.appendHistoryEntry taskId newFence slot .partialEffect receiptId none
    appendPartialEntries taskId newFence slots rest s

def outcomeAndEntries (task : TaskRecord) (slots : List SlotRecord)
    (evaluation : RequiredEvaluation) : Tx (TaskStore × ReceiptOutcome × ℕ) :=
  match evaluation.unsatisfied with
  | [] => .ok (s, .committed, task.head.retryFenceEpoch)
  | first :: _ => do
    refuseIf (¬ ∃ slot ∈ slots, slot.state = .effectClosed) (.requiredEffectUnsatisfied first
      "required slot unsatisfied and no effect happened; use close_permit")
    let newFence ← orRefuse (checkedSucc task.head.retryFenceEpoch) .epochExhausted
    let s ← appendPartialEntries task.taskId newFence slots evaluation.unsatisfied s
    pure (s, if 0 < evaluation.satisfiedCount then .partialEffect else .failedAfterEffect,
      newFence)

def writeCommitReceipt (task : TaskRecord) (permit : PermitRecord) (attempt : AttemptRecord)
    (registryBinding : Option ParticipantRegistryBinding)
    (requiredSatisfaction : List RequiredSatisfaction) (outcome : ReceiptOutcome)
    (newFence : ℕ) : Tx (TaskStore × TaskReceiptRecord) := do
  let commitSeq ← orRefuse (checkedSucc task.head.commitSeq) .epochExhausted
  let controlEpoch ← orRefuse (checkedSucc task.controlEpoch) .epochExhausted
  let receipt := terminalReceipt (deriveCommitReceiptId permit.permitId) task permit attempt
    registryBinding outcome ⟨commitSeq, s.historyRoot task.taskId, newFence⟩
  let s ← s.writeTerminal task permit attempt receipt
    (some (finalizeProofDigestOf requiredSatisfaction)) none
    (if outcome = .failedAfterEffect then .failed else .committed) controlEpoch
  pure (s, receipt)

def finalizeRequired (task : TaskRecord) (permit : PermitRecord) (attempt : AttemptRecord)
    (registryBinding : Option ParticipantRegistryBinding) (request : FinalizeRequestV3) :
    Tx (TaskStore × TaskReceiptRecord) := do
  let slots := s.listSlots permit.permitId
  refuseIf (0 < s.countBlocking permit.permitId)
    (.outstandingEffectSlots (s.countBlocking permit.permitId))
  let evaluation ← s.evaluateRequired slots attempt.snapshot.snapshotDigest
    request.requiredSatisfaction
  let (s, outcome, newFence) ← s.outcomeAndEntries task slots evaluation
  s.writeCommitReceipt task permit attempt registryBinding request.requiredSatisfaction outcome
    newFence

def finalizeIssued (task : TaskRecord) (permit : PermitRecord) (attempt : AttemptRecord)
    (adoption : Option AdoptionReceiptRecord)
    (registryBinding : Option ParticipantRegistryBinding) (request : FinalizeRequestV3)
    (legacy : Bool) (evidence : TerminalEvidence) : Tx (TaskStore × FinalizeDecision) := do
  refuseIf (permit.attemptId ≠ request.base.attemptId ∨
    permit.attemptGeneration ≠ request.base.attemptGeneration) .notPermitHolder
  refuseIf (task.head ≠ permit.expectedHead) .staleTaskHead
  s.checkTerminalContext task permit attempt adoption
  if legacy then
    let (s, receipt) ← s.finalizeLegacy task permit attempt request.base
    pure (s, .committed receipt)
  else
    evidence.plans
    if ∃ slot ∈ s.listSlots permit.permitId, slot.state = .effectUnknown then
      let (s, record) ← s.quarantineDecision task permit request.fencedParticipantDigest true
      pure (s, .quarantined record)
    else
      let (s, receipt) ← s.finalizeRequired task permit attempt registryBinding request
      pure (s, .committed receipt)

def finalizeImpl (request : FinalizeRequestV3) (legacy : Bool)
    (authorityLease : Option AuthorityLeaseRecord) (evidence : TerminalEvidence) :
    Tx (TaskStore × FinalizeDecision) := do
  let task ← s.loadTask request.base.taskId
  let permit ← s.loadPermitById request.base.taskId request.base.permitId
  let attempt ← s.loadAttempt request.base.taskId request.base.attemptId
  let adoption := s.loadAdoptionByPermit request.base.taskId request.base.permitId
  let registryBinding ← s.effectiveRegistryBinding task permit adoption request.base.finalizedAtMs
    authorityLease evidence.takeover
  refuseIf (attempt.attemptGeneration ≠ request.base.attemptGeneration) .invalidGeneration
  match permit.state with
  | .quarantined => do
    let (s, record) ← s.quarantineDecision task permit request.fencedParticipantDigest false
    pure (s, .quarantined record)
  | .closed => do
    let receipt ← s.replayFinalize permit request (replayRegistryBinding permit adoption)
    evidence.plans
    pure (s, .replayed receipt)
  | .superseded => .error .permitNotIssued
  | .issued => s.finalizeIssued task permit attempt adoption registryBinding request legacy evidence

def finalizeCommit (request : FinalizeRequest) (authorityLease : Option AuthorityLeaseRecord)
    (evidence : TerminalEvidence) : Tx (TaskStore × FinalizeDecision) :=
  s.finalizeImpl ⟨request, [], 0⟩ true authorityLease evidence

def finalizeCommitV3 (request : FinalizeRequestV3) (authorityLease : Option AuthorityLeaseRecord)
    (evidence : TerminalEvidence) : Tx (TaskStore × FinalizeDecision) :=
  s.finalizeImpl request false authorityLease evidence

def writeClosureReceipt (task : TaskRecord) (permit : PermitRecord) (attempt : AttemptRecord)
    (registryBinding : Option ParticipantRegistryBinding) (outcome : PermitClosureOutcome) :
    Tx (TaskStore × TaskReceiptRecord) := do
  let controlEpoch ← orRefuse (checkedSucc task.controlEpoch) .epochExhausted
  let receipt := terminalReceipt (derivePermitClosureReceiptId permit.permitId) task permit attempt
    registryBinding outcome.receiptOutcome task.head
  let s ← s.writeTerminal task permit attempt receipt none registryBinding
    (if outcome.receiptOutcome = .cancelledBeforeEffect then .cancelled else .failed) controlEpoch
  pure (s, receipt)

/-- The issued branch of a closure. The head is not compared with the one the permit expects. -/
def closeIssued (task : TaskRecord) (permit : PermitRecord) (attempt : AttemptRecord)
    (adoption : Option AdoptionReceiptRecord)
    (registryBinding : Option ParticipantRegistryBinding) (request : ClosePermitRequest)
    (evidence : TerminalEvidence) : Tx (TaskStore × ClosePermitDecision) := do
  refuseIf (permit.attemptId ≠ request.attemptId ∨
    permit.attemptGeneration ≠ request.attemptGeneration) .notPermitHolder
  s.checkTerminalContext task permit attempt adoption
  let slots := s.listSlots permit.permitId
  if ∃ slot ∈ slots, slot.state = .effectUnknown then
    let (s, record) ← s.quarantineDecision task permit request.fencedParticipantDigest true
    pure (s, .quarantined record)
  else
    refuseIf (0 < s.countBlocking permit.permitId)
      (.outstandingEffectSlots (s.countBlocking permit.permitId))
    let effects := slots.countP fun slot => slot.state = .effectClosed
    refuseIf (0 < effects) (.permitHasEffects effects)
    evidence.assignment
    let (s, receipt) ← s.writeClosureReceipt task permit attempt registryBinding request.outcome
    pure (s, .closed receipt)

def closePermit (request : ClosePermitRequest) (authorityLease : Option AuthorityLeaseRecord)
    (evidence : TerminalEvidence) : Tx (TaskStore × ClosePermitDecision) := do
  let task ← s.loadTask request.taskId
  let permit ← s.loadPermitById request.taskId request.permitId
  let attempt ← s.loadAttempt request.taskId request.attemptId
  let adoption := s.loadAdoptionByPermit request.taskId request.permitId
  refuseIf (attempt.attemptGeneration ≠ request.attemptGeneration) .invalidGeneration
  let registryBinding ← s.effectiveRegistryBinding task permit adoption request.closedAtMs
    authorityLease evidence.takeover
  match permit.state with
  | .quarantined => do
    let (s, record) ← s.quarantineDecision task permit request.fencedParticipantDigest false
    pure (s, .replayedQuarantine record)
  | .closed => do
    let receipt ← orRefuse (s.loadReceiptByPermit request.taskId permit.permitId)
      .permitNotIssued
    refuseIf (receipt.participantRegistryBinding ≠ replayRegistryBinding permit adoption)
      .participantRegistryBindingMismatch
    refuseIf (receipt.outcome ≠ request.outcome.receiptOutcome) .historyConflict
    pure (s, .replayed receipt)
  | .superseded => .error .permitNotIssued
  | .issued => s.closeIssued task permit attempt adoption registryBinding request evidence

end TaskStore

end Nlos.Task
