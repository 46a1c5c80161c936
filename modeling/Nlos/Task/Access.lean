import Nlos.Task.Store

/-!
# Reading and writing the tables

The row-level reads and writes the operations are made of, and the checks they share: the lease
a permit was issued under, the membership position of its group and its frozen registry.
-/

namespace Nlos.Task

open Lib

def SlotRecord.moved (slot : SlotRecord) (newState : SlotState)
    (effectPermitId effectReceiptId : Option Id) : SlotRecord :=
  { slot with
    state := newState
    stateSeq := slot.stateSeq + 1
    effectPermitId := effectPermitId.or slot.effectPermitId
    effectReceiptId := effectReceiptId.or slot.effectReceiptId }

def SlotRecord.bound (slot : SlotRecord) (binding : Id) (generation : ℕ) : SlotRecord :=
  { slot with fiberBinding := some binding, fiberGeneration := some generation }

/-- The row of the slot, unchanged since it was read and without a fiber. -/
def SlotRecord.Unbound (slot row : SlotRecord) : Prop :=
  row.key = slot.key ∧ row.state = slot.state ∧ row.stateSeq = slot.stateSeq ∧
    row.fiberBinding = none ∧ row.fiberGeneration = none

instance (slot row : SlotRecord) : Decidable (slot.Unbound row) :=
  inferInstanceAs (Decidable (_ ∧ _))

/-- What the takeover receipts and the assignments answer for a cross-term adoption: the completed
takeover from the fenced assignment of the permit, its fenced completion assignment, the active
successor assignment, and the position the adoption recorded. -/
structure CrossTermEvidence where
  (takeover completion successor anchor : Tx Unit)

namespace TaskStore

variable (s : TaskStore)

def loadTask (taskId : Id) : Tx TaskRecord :=
  orRefuse (s.tasks.find? fun t => t.taskId = taskId) .taskNotFound

def loadAttempt (taskId attemptId : Id) : Tx AttemptRecord :=
  orRefuse (s.attempts.find? fun a => a.taskId = taskId ∧ a.attemptId = attemptId) .attemptNotFound

def loadPermitById (taskId permitId : Id) : Tx PermitRecord :=
  orRefuse (s.permits.find? fun p => p.taskId = taskId ∧ p.permitId = permitId) .permitNotFound

def loadPermitByKey (taskId idempotencyKey : Id) : Option PermitRecord :=
  s.permits.find? fun p => p.taskId = taskId ∧ p.idempotencyKey = idempotencyKey

def loadActivePermit (taskId : Id) : Option PermitRecord :=
  s.permits.find? fun p => p.taskId = taskId ∧ p.state = .issued

def loadQuarantinedPermit (taskId : Id) : Option PermitRecord :=
  s.permits.find? fun p => p.taskId = taskId ∧ p.state = .quarantined

def loadOutstandingPermit (taskId : Id) : Option PermitRecord :=
  s.permits.find? fun p => p.taskId = taskId ∧ p.state.isOutstanding

def countIssuedPermits : ℕ := s.permits.countP fun p => p.state = .issued

def loadSlot (permitId : Id) (effectSeq : ℕ) : Tx SlotRecord :=
  orRefuse (s.slots.find? fun slot => slot.permitId = permitId ∧ slot.effectSeq = effectSeq)
    .effectSlotNotFound

def listSlots (permitId : Id) : List SlotRecord :=
  s.slots.filter fun slot => slot.permitId = permitId

def storedEffectSetRoot (permitId : Id) : Option Digest :=
  (s.effectSetRoots.find? fun row => row.1 = permitId).map Prod.snd

def loadEffectReceipt (receiptId : Id) : Tx EffectReceipt :=
  orRefuse (s.effectReceipts.find? fun r => r.receiptId = receiptId) .receiptNotFound

def loadReceiptByPermit (taskId permitId : Id) : Option TaskReceiptRecord :=
  s.receipts.find? fun r => r.taskId = taskId ∧ r.permitId = some permitId

def loadWriteSetByRoot (taskId : Id) (writeSetRoot : Digest) : Option TaskWriteSetRecord :=
  s.writeSets.find? fun w => w.taskId = taskId ∧ w.writeSetRoot = writeSetRoot

def isEffectClosedInHistory (taskId : Id) (logicalEffectId : Digest) : Prop :=
  ∃ entry ∈ s.history, entry.taskId = taskId ∧ entry.logicalEffectId = logicalEffectId ∧
    entry.outcome = .effectClosed

instance (taskId : Id) (logicalEffectId : Digest) :
    Decidable (s.isEffectClosedInHistory taskId logicalEffectId) :=
  inferInstanceAs (Decidable (∃ entry ∈ s.history, _))

def historyRoot (taskId : Id) : Digest :=
  effectHistoryRootOf (s.history.filter fun entry => entry.taskId = taskId)

def hasAdoption (permitId : Id) : Prop := ∃ a ∈ s.adoptions, a.originalPermitId = permitId

instance (permitId : Id) : Decidable (s.hasAdoption permitId) :=
  inferInstanceAs (Decidable (∃ a ∈ s.adoptions, _))

/-- The first adoption of a permit; one within the term comes before one across terms. -/
def loadAdoptionByPermit (taskId permitId : Id) : Option AdoptionReceiptRecord :=
  (s.adoptions.find? fun a =>
    a.taskId = taskId ∧ a.originalPermitId = permitId ∧ a.crossTerm = none).or
  (s.adoptions.find? fun a => a.taskId = taskId ∧ a.originalPermitId = permitId)

def validateAuthorityLeaseBinding (binding : AuthorityLeaseBinding) (nowMs : ℤ) : Tx Unit := do
  refuseIf (nowMs < 0) (.invalidAuthorityLease "validation timestamp must be non-negative")
  refuseIf (s.authorityId ≠ binding.authorityId) .authorityLeaseFenced
  let current ← orRefuse s.lease .authorityLeaseNotFound
  refuseIf (current.binding ≠ binding) .authorityLeaseFenced
  refuseIf (binding.expiresAtMs ≤ nowMs) .authorityLeaseExpired

def validatePermitAuthorityLease (permit : PermitRecord) (nowMs : ℤ)
    (authorityLease : Option AuthorityLeaseRecord) : Tx Unit :=
  match permit.authorityLeaseBinding, authorityLease with
  | none, none => .ok ()
  | none, some _ => .error .authorityLeaseBindingMismatch
  | some _, none => .error .authorityLeaseRequired
  | some binding, some lease => do
    refuseIf (binding ≠ lease.binding) .authorityLeaseBindingMismatch
    s.validateAuthorityLeaseBinding binding nowMs

def loadGroup (groupId : Id) : Tx GroupRecord :=
  orRefuse (s.groups.find? fun g => g.groupId = groupId) .groupNotFound

def loadMember (groupId : Id) (memberType : GroupMemberType) (memberId : Id) :
    Option GroupMemberRecord :=
  s.members.find? fun m => m.groupId = groupId ∧ m.memberType = memberType ∧ m.memberId = memberId

def currentCommitBinding (attemptId : Id) : Tx (Option TaskGroupCommitBinding) :=
  match s.attemptBindings.find? fun b => b.attemptId = attemptId with
  | none => .ok none
  | some admission => do
    let group ← s.loadGroup admission.groupId
    let member ← orRefuse (s.loadMember admission.groupId .taskAttempt attemptId)
      .groupMemberNotFound
    refuseIf (member.membershipState ≠ .active) .membershipConflict
    .ok (some ⟨group.groupId, group.membershipGeneration, group.membershipRoot,
      group.groupPolicyDigest⟩)

def validateCommitBinding (attemptId : Id) (expected : Option TaskGroupCommitBinding) :
    Tx Unit := do
  let current ← s.currentCommitBinding attemptId
  refuseIf (current ≠ expected) .membershipConflict

def loadCurrentRegistry (taskId : Id) : Option ParticipantRegistryRecord :=
  s.registries.find? fun r => r.taskId = taskId

def inspectRegistry (task : TaskRecord) : Tx ParticipantRegistryRecord := do
  let registry ← orRefuse (s.loadCurrentRegistry task.taskId) .participantRegistryNotFound
  refuseIf (registry.taskGeneration ≠ task.taskGeneration)
    (.corruptRecord "participant registry task binding")
  pure registry

def validateFrozenBinding (task : TaskRecord) (binding : Option ParticipantRegistryBinding) :
    Tx ParticipantRegistryBinding := do
  let binding ← orRefuse binding .participantRegistryBindingMissing
  let registry ← s.inspectRegistry task
  refuseIf (registry.binding ≠ binding) .participantRegistryBindingMismatch
  refuseIf (registry.state ≠ .frozenForPermit) (.participantRegistryFrozen registry.state)
  pure binding

def checkSuccessorRegistry (original : ParticipantRegistryBinding)
    (registry : ParticipantRegistryRecord) : Tx Unit := do
  let minimum ← orRefuse (checkedSucc original.generation) .epochExhausted
  refuseIf (registry.generation < minimum ∨
    (registry.generation = minimum ∧ registry.priorRoot ≠ original.root) ∨
    ¬ (registry.state = .opened ∨ registry.state = .frozenForPermit))
    .participantRegistryBindingMismatch

/-- The proof chain of a cross-term adoption, up to the live successor lease. Answers with the
current registry binding. -/
def validateCrossTermAdoptionContext (task : TaskRecord) (permit : PermitRecord)
    (successorLease : AuthorityLeaseRecord) (nowMs : ℤ) (evidence : CrossTermEvidence) :
    Tx ParticipantRegistryBinding := do
  refuseIf (nowMs < 0)
    (.invalidReconcileState "cross-term adoption timestamp must be non-negative")
  let original ← orRefuse permit.participantRegistryBinding .participantRegistryBindingMissing
  refuseIf (permit.authorityLeaseBinding = none) .authorityLeaseRequired
  evidence.takeover
  refuseIf (permit.cancelEpoch ≠ task.cancelEpoch)
    (.invalidReconcileState "cross-term adoption permit cancel epoch is stale")
  evidence.completion
  let registry ← s.inspectRegistry task
  checkSuccessorRegistry original registry
  evidence.successor
  s.validateAuthorityLeaseBinding successorLease.binding nowMs
  pure registry.binding

def validateCrossAdoption (task : TaskRecord) (permit : PermitRecord)
    (adoption : AdoptionReceiptRecord) (nowMs : ℤ) (authorityLease : Option AuthorityLeaseRecord)
    (evidence : CrossTermEvidence) : Tx ParticipantRegistryBinding := do
  let successorLease ← orRefuse authorityLease .authorityLeaseRequired
  let current ← s.validateCrossTermAdoptionContext task permit successorLease nowMs evidence
  refuseIf (adoption.authorityLeaseBinding ≠ some successorLease.binding)
    .authorityLeaseBindingMismatch
  evidence.anchor
  pure current

def rejectTakeoverFence (taskId : Id) : Tx Unit := do
  let registry ← orRefuse (s.loadCurrentRegistry taskId) .participantRegistryNotFound
  refuseIf (registry.state = .frozenForTakeover ∨ registry.state = .superseded)
    (.participantRegistryFrozen registry.state)

def taskStoreParticipant (taskId : Id) : ParticipantRecord where
  participantType := .taskStore
  participantId := s.authorityId
  participantGeneration := 1
  admissionReceiptId := sha256Prefix16 "llmos/task-store-participant-admission/v1"
    [taskId.bytes, beBytes 8 1, s.authorityId.bytes]

def setRegistry (registry : ParticipantRegistryRecord) : TaskStore :=
  { s with
    registries := updateRows (fun r => r.taskId = registry.taskId) (fun _ => registry)
      s.registries }

def initializeRegistry (task : TaskRecord) : Tx (TaskStore × ParticipantRegistryRecord) :=
  match s.loadCurrentRegistry task.taskId with
  | some registry => do
    refuseIf (registry.taskGeneration ≠ task.taskGeneration)
      (.corruptRecord "participant registry task binding")
    pure (s, registry)
  | none =>
    let registry := .ofParticipants task.taskId task.taskGeneration 1 emptyRegistryRoot
      [s.taskStoreParticipant task.taskId]
    .ok ({ s with registries := s.registries ++ [registry] }, registry)

def freezeForPermit (task : TaskRecord) : Tx (TaskStore × ParticipantRegistryBinding) := do
  let (s, registry) ← s.initializeRegistry task
  let registry ← match registry.state with
    | .opened => pure registry
    | .frozenForPermit | .superseded => do
      let next ← orRefuse (checkedSucc registry.generation) .epochExhausted
      pure (registry.successor next)
    | .frozenForTakeover => .error (.participantRegistryFrozen registry.state)
  pure (s.setRegistry { registry with state := .frozenForPermit }, registry.binding)

def freezeForTakeover (task : TaskRecord) (expected : ParticipantRegistryBinding) :
    Tx (TaskStore × ParticipantRegistryRecord) := do
  let (s, registry) ← s.initializeRegistry task
  refuseIf (registry.binding ≠ expected) .participantRegistryCasMismatch
  match registry.state with
  | .frozenForTakeover => pure (s, registry)
  | .opened | .frozenForPermit =>
    let frozen := { registry with state := .frozenForTakeover }
    pure (s.setRegistry frozen, frozen)
  | .superseded => .error (.participantRegistryFrozen registry.state)

def reopenAfterTakeover (task : TaskRecord) (expected : ParticipantRegistryBinding) :
    Tx TaskStore := do
  let (s, registry) ← s.initializeRegistry task
  refuseIf (registry.binding ≠ expected) .participantRegistryBindingMismatch
  refuseIf (registry.state ≠ .frozenForTakeover)
    (.corruptRecord "successor registry is not frozen for takeover")
  let next ← orRefuse (checkedSucc registry.generation) .epochExhausted
  pure (s.setRegistry (registry.successor next))

def reopenRegistryOnPermitClosure (task : TaskRecord)
    (effectiveRegistryBinding : Option ParticipantRegistryBinding) : Tx TaskStore :=
  match effectiveRegistryBinding with
  | none => .ok s
  | some frozen => do
    let (s, registry) ← s.initializeRegistry task
    if registry.binding ≠ frozen ∨ registry.state ≠ .frozenForPermit then
      pure s
    else
      let next ← orRefuse (checkedSucc registry.generation) .epochExhausted
      pure (s.setRegistry (registry.successor next))

def updateTask (taskId : Id) (mutate : TaskRecord → TaskRecord) : TaskStore :=
  { s with tasks := updateRows (fun t => t.taskId = taskId) mutate s.tasks }

def setAttemptState (attempt : AttemptRecord) (state : AttemptState) (receiptId : Option Id) :
    Tx TaskStore := do
  refuseIf (¬ ∃ a ∈ s.attempts, a.attemptId = attempt.attemptId ∧ a.state = attempt.state)
    (.corruptRecord "attempt state compare-and-swap failed")
  pure
    { s with
      attempts := updateRows (fun a => a.attemptId = attempt.attemptId ∧ a.state = attempt.state)
        (fun a => { a with state := state, receiptId := receiptId }) s.attempts }

def insertReceipt (receipt : TaskReceiptRecord) : Tx TaskStore := do
  let receipts ← orRefuse
    (insertRow (fun r => r.receiptId = receipt.receiptId) receipt s.receipts) .storage
  pure { s with receipts := receipts }

def casPermit (permitId : Id) (old new : PermitState) (reason : String) : Tx TaskStore := do
  refuseIf (¬ ∃ p ∈ s.permits, p.permitId = permitId ∧ p.state = old) (.corruptRecord reason)
  pure
    { s with
      permits := updateRows (fun p => p.permitId = permitId ∧ p.state = old)
        (fun p => { p with state := new }) s.permits }

def closePermitRow (permitId : Id) : Tx TaskStore :=
  s.casPermit permitId .issued .closed "permit close compare-and-swap failed"

def insertEffectReceipt (receipt : EffectReceipt) : Tx TaskStore := do
  let receipts ← orRefuse
    (insertRow (fun r => r.receiptId = receipt.receiptId) receipt s.effectReceipts) .storage
  pure { s with effectReceipts := receipts }

def casSlot (slot : SlotRecord) (newState : SlotState)
    (effectPermitId effectReceiptId : Option Id) : Tx (TaskStore × SlotRecord) := do
  refuseIf (2 ^ 63 ≤ slot.stateSeq) .epochExhausted
  refuseIf (¬ ∃ r ∈ s.slots, r.key = slot.key ∧ r.state = slot.state ∧ r.stateSeq = slot.stateSeq)
    (.corruptRecord "effect slot compare-and-swap failed")
  let updated := slot.moved newState effectPermitId effectReceiptId
  pure
    ({ s with
      slots := updateRows
        (fun r => r.key = slot.key ∧ r.state = slot.state ∧ r.stateSeq = slot.stateSeq)
        (fun r => r.moved newState effectPermitId effectReceiptId) s.slots }, updated)

def casFiberBinding (slot : SlotRecord) (binding : Id) (generation : ℕ) : Tx TaskStore := do
  refuseIf (2 ^ 63 ≤ slot.stateSeq) .epochExhausted
  refuseIf (¬ ∃ r ∈ s.slots, slot.Unbound r)
    (.corruptRecord "effect slot fiber binding compare-and-swap lost")
  pure { s with slots := updateRows slot.Unbound (·.bound binding generation) s.slots }

/-- The next number of a per-task counter, kept in `write`. -/
def advanceSequence (taskId : Id) (read : EffectSequences → ℕ)
    (write : ℕ → EffectSequences → EffectSequences) : Tx (TaskStore × ℕ) :=
  match s.sequences.find? fun row => row.taskId = taskId with
  | none => .ok ({ s with sequences := s.sequences ++ [write 1 ⟨taskId, 0, 0⟩] }, 1)
  | some row => do
    let next ← orRefuse (checkedSucc (read row)) .epochExhausted
    pure ({ s with sequences := updateRows (fun r => r.taskId = taskId) (write next) s.sequences },
      next)

def advanceHistorySeq (taskId : Id) : Tx (TaskStore × ℕ) :=
  s.advanceSequence taskId EffectSequences.effectHistorySeq
    fun next row => { row with effectHistorySeq := next }

def advanceAdoptionEpoch (taskId : Id) : Tx (TaskStore × ℕ) :=
  s.advanceSequence taskId EffectSequences.adoptionEpoch
    fun next row => { row with adoptionEpoch := next }

def appendHistoryEntry (taskId : Id) (retryFenceEpoch : ℕ) (slot : SlotRecord)
    (outcome : EffectHistoryOutcome) (authoritativeEffectReceiptId : Id)
    (operationId : Option Id) : Tx TaskStore := do
  let (s, effectHistorySeq) ← s.advanceHistorySeq taskId
  pure { s with history := s.history ++ [{
    effectHistorySeq, taskId, retryFenceEpoch, operationId, outcome, authoritativeEffectReceiptId
    logicalEffectId := slot.logicalEffectId
    actionProposalDigest := slot.actionProposalDigest
    idempotencyIdentityDigest := slot.idempotencyIdentityDigest }] }

end TaskStore

end Nlos.Task
