import Nlos.Task.Reconcile

/-!
# The Artifact commit ladder

A permit without effects publishes Artifacts: the publications are planned, authorized, recorded
one by one, and committed once every expectation has its receipt.
-/

namespace Nlos.Task

open Lib

structure PlanArtifactCommitRequest where
  (taskId attemptId : Id)
  attemptGeneration : ℕ
  (permitId idempotencyKey : Id)
  expectations : List ArtifactPublicationExpectation

inductive ArtifactCommitPlanDecision where
  | planned (plan : ArtifactCommitPlanRecord)
  | replayed (plan : ArtifactCommitPlanRecord)
deriving DecidableEq

inductive ArtifactPublicationAuthorizationDecision where
  | authorized (plan : ArtifactCommitPlanRecord)
  | replayed (plan : ArtifactCommitPlanRecord)
deriving DecidableEq

structure ArtifactCommitProgress where
  plan : ArtifactCommitPlanRecord
  publications : List NestedArtifactPublicationReceipt
deriving DecidableEq

structure ArtifactTaskCommitReceipt where
  taskReceipt : TaskReceiptRecord
  artifactPublications : List NestedArtifactPublicationReceipt
deriving DecidableEq

inductive ArtifactFinalizeDecision where
  | committed (receipt : ArtifactTaskCommitReceipt)
  | replayed (receipt : ArtifactTaskCommitReceipt)
deriving DecidableEq

/-- Expectations and publications are ordered by Artifact, revision and staging identity. -/
def slotBefore (a b : Id × ℕ × Id) : Prop :=
  a.1 < b.1 ∨ (a.1 = b.1 ∧ (a.2.1 < b.2.1 ∨ (a.2.1 = b.2.1 ∧ a.2.2 ≤ b.2.2)))

instance (a b : Id × ℕ × Id) : Decidable (slotBefore a b) :=
  inferInstanceAs (Decidable (_ ∨ _))

def ArtifactPublicationExpectation.slot (e : ArtifactPublicationExpectation) : Id × ℕ × Id :=
  (e.artifactId, e.targetRevision, e.stagingId)

def NestedArtifactPublicationReceipt.slot (r : NestedArtifactPublicationReceipt) : Id × ℕ × Id :=
  (r.artifactId, r.revision, r.stagingId)

def canonicalExpectations (expectations : List ArtifactPublicationExpectation) :
    Tx (List ArtifactPublicationExpectation) := do
  refuseIf (expectations = [])
    (.invalidArtifactPublicationPlan "at least one Artifact publication is required")
  refuseIf (∃ e ∈ expectations, e.targetRevision = 0)
    (.invalidArtifactPublicationPlan "target revision must be non-zero")
  let canonical := expectations.insertionSort fun a b => slotBefore a.slot b.slot
  refuseIf (¬ (canonical.map ArtifactPublicationExpectation.stagingId).Nodup)
    (.invalidArtifactPublicationPlan "duplicate staging identity")
  refuseIf (∃ pair ∈ canonical.zip canonical.tail, pair.1.artifactId = pair.2.artifactId ∧
    pair.1.targetRevision = pair.2.targetRevision)
    (.invalidArtifactPublicationPlan "duplicate Artifact revision slot")
  pure canonical

def artifactPublicationPlanRoot (canonical : List ArtifactPublicationExpectation) : Digest :=
  sha256 "llmos/task-artifact-publication-plan/v1" <|
    beBytes 8 canonical.length :: canonical.zipIdx.map fun (e, ordinal) =>
      beBytes 8 ordinal ++ e.stagingId.bytes ++ e.artifactId.bytes ++ beBytes 8 e.targetRevision ++
        e.digest.bytes ++ beBytes 8 e.sizeBytes

def derivePlanId (permitId : Id) : Id :=
  sha256Prefix16 "llmos/task-artifact-commit-plan/v1" [permitId.bytes]

def artifactExpectationsMatchWriteSet (expectations : List ArtifactPublicationExpectation)
    (writes : List ArtifactWrite) : Prop :=
  let orderedWrites := writes.insertionSort fun a b =>
    a.artifactId < b.artifactId ∨
      (a.artifactId = b.artifactId ∧ a.proposedRevision ≤ b.proposedRevision)
  expectations.length = writes.length ∧ writes ≠ [] ∧
    ∀ pair ∈ expectations.zip orderedWrites, pair.1.artifactId = pair.2.artifactId ∧
      pair.1.targetRevision = pair.2.proposedRevision ∧
      pair.1.digest = pair.2.contentDigest ∧ pair.1.sizeBytes = pair.2.sizeBytes

instance (expectations : List ArtifactPublicationExpectation) (writes : List ArtifactWrite) :
    Decidable (artifactExpectationsMatchWriteSet expectations writes) :=
  inferInstanceAs (Decidable (_ ∧ _))

def validatePublicationReceipt (plan : ArtifactCommitPlanRecord)
    (receipt : NestedArtifactPublicationReceipt) : Tx Unit := do
  refuseIf (receipt.taskId ≠ plan.taskId ∨ receipt.permitId ≠ plan.permitId ∨
    receipt.writeSetRoot ≠ plan.writeSetRoot)
    (.artifactPublicationConflict "Task/Permit/write-set binding differs from plan")
  let expectation ← orRefuse (plan.expectations.find? fun e => e.stagingId = receipt.stagingId)
    (.artifactPublicationConflict "receipt staging identity is absent from plan")
  refuseIf (expectation.artifactId ≠ receipt.artifactId ∨
    expectation.targetRevision ≠ receipt.revision ∨ expectation.digest ≠ receipt.digest ∨
    expectation.sizeBytes ≠ receipt.sizeBytes)
    (.artifactPublicationConflict "receipt content differs from planned Artifact revision")
  refuseIf (receipt.newHeadRevision ≠ receipt.revision ∨ receipt.newHeadDigest ≠ receipt.digest ∨
    checkedSucc receipt.priorHeadRevision ≠ some receipt.newHeadRevision ∨
    ¬ (receipt.priorHeadRevision = 0 ↔ receipt.priorHeadDigest = none))
    (.artifactPublicationConflict "receipt head transition is internally inconsistent")

def expectedPlanState (plan : ArtifactCommitPlanRecord) (published : ℕ) : ArtifactCommitPlanState :=
  if published = 0 then
    if plan.state = .publishing then .publishing else .planned
  else if published = plan.expectations.length then .ready
  else .publishing

def validateProgress (plan : ArtifactCommitPlanRecord)
    (publications : List NestedArtifactPublicationReceipt) : Tx Unit := do
  refuseIf (∃ receipt ∈ publications, (validatePublicationReceipt plan receipt).isOk = false)
    (.corruptRecord "stored publication receipt disagrees with plan")
  refuseIf (expectedPlanState plan publications.length ≠
    if plan.state = .finalized then .ready else plan.state)
    (.corruptRecord "artifact commit plan state disagrees with publication count")

namespace TaskStore

variable (s : TaskStore)

def loadPlan (planId : Id) : Tx ArtifactCommitPlanRecord :=
  orRefuse (s.artifactPlans.find? fun p => p.planId = planId) .artifactCommitPlanNotFound

def loadPlanByKey (taskId idempotencyKey : Id) : Option ArtifactCommitPlanRecord :=
  s.artifactPlans.find? fun p => p.taskId = taskId ∧ p.idempotencyKey = idempotencyKey

def loadPublications (planId : Id) : List NestedArtifactPublicationReceipt :=
  ((s.publications.filter fun row => row.1 = planId).map Prod.snd).insertionSort
    fun a b => slotBefore a.slot b.slot

def updatePlanState (planId : Id) (old new : ArtifactCommitPlanState) : Tx TaskStore := do
  refuseIf (¬ ∃ p ∈ s.artifactPlans, p.planId = planId ∧ p.state = old)
    (.corruptRecord "artifact commit plan state compare-and-swap failed")
  pure
    { s with
      artifactPlans := updateRows (fun p => p.planId = planId ∧ p.state = old)
        (fun p => { p with state := new }) s.artifactPlans }

def finalizePlan (planId receiptId : Id) : Tx TaskStore := do
  refuseIf (¬ ∃ p ∈ s.artifactPlans, p.planId = planId ∧ p.state = .ready ∧
    p.taskReceiptId = none) (.corruptRecord "Artifact plan finalize compare-and-swap failed")
  pure
    { s with
      artifactPlans := updateRows
        (fun p => p.planId = planId ∧ p.state = .ready ∧ p.taskReceiptId = none)
        (fun p => { p with state := .finalized, taskReceiptId := some receiptId })
        s.artifactPlans }

def loadArtifactContext (taskId attemptId : Id) (attemptGeneration : ℕ) (permitId : Id) :
    Tx (TaskRecord × PermitRecord × AttemptRecord) := do
  let task ← s.loadTask taskId
  let permit ← s.loadPermitById taskId permitId
  let attempt ← s.loadAttempt taskId attemptId
  refuseIf (attempt.attemptGeneration ≠ attemptGeneration) .invalidGeneration
  refuseIf (permit.attemptId ≠ attemptId ∨ permit.attemptGeneration ≠ attemptGeneration)
    .notPermitHolder
  refuseIf (permit.state ≠ .issued) .permitNotIssued
  pure (task, permit, attempt)

/-- The root a plan is stored under: that of the sealed write set whose Artifact writes it
expects, or its own when the permit was issued for it. -/
def planWriteSetRoot (request : PlanArtifactCommitRequest) (permit : PermitRecord)
    (canonical : List ArtifactPublicationExpectation) : Tx Digest :=
  match s.loadWriteSetByRoot request.taskId permit.writeSetRoot with
  | some writeSet => do
    refuseIf (writeSet.attemptId ≠ request.attemptId ∨
      writeSet.attemptGeneration ≠ request.attemptGeneration)
      (.invalidArtifactPublicationPlan "sealed TaskWriteSet belongs to a different attempt")
    refuseIf (¬ artifactExpectationsMatchWriteSet canonical writeSet.artifactWrites)
      (.invalidArtifactPublicationPlan
        "Artifact publication expectations differ from sealed Artifact writes")
    pure permit.writeSetRoot
  | none => do
    refuseIf (artifactPublicationPlanRoot canonical ≠ permit.writeSetRoot)
      (.invalidArtifactPublicationPlan "canonical plan root differs from permit write_set_root")
    pure (artifactPublicationPlanRoot canonical)

def planArtifactCommit (request : PlanArtifactCommitRequest) :
    Tx (TaskStore × ArtifactCommitPlanDecision) := do
  let canonical ← canonicalExpectations request.expectations
  let planId := derivePlanId request.permitId
  match s.loadPlanByKey request.taskId request.idempotencyKey with
  | some existing => do
    refuseIf (¬ (existing.planId = planId ∧ existing.taskId = request.taskId ∧
      existing.permitId = request.permitId ∧ existing.attemptId = request.attemptId ∧
      existing.attemptGeneration = request.attemptGeneration ∧
      existing.expectations = canonical)) .idempotencyConflict
    pure (s, .replayed existing)
  | none => do
    refuseIf (∃ p ∈ s.artifactPlans, p.planId = planId) .idempotencyConflict
    let (task, permit, attempt) ← s.loadArtifactContext request.taskId request.attemptId
      request.attemptGeneration request.permitId
    refuseIf (s.listSlots request.permitId ≠ []) .mixedEffectArtifactWriteSet
    refuseIf (task.head ≠ permit.expectedHead) .staleTaskHead
    s.validateCommitBinding attempt.attemptId permit.groupBinding
    let writeSetRoot ← s.planWriteSetRoot request permit canonical
    let record : ArtifactCommitPlanRecord :=
      { planId := planId
        idempotencyKey := request.idempotencyKey
        taskId := request.taskId
        permitId := request.permitId
        attemptId := request.attemptId
        attemptGeneration := request.attemptGeneration
        writeSetRoot := writeSetRoot
        expectations := canonical
        state := .planned
        taskReceiptId := none }
    let plans ← orRefuse
      (insertRow (fun p => p.planId = planId ∨ p.permitId = request.permitId) record
        s.artifactPlans) .storage
    pure ({ s with artifactPlans := plans }, .planned record)

def authorizeArtifactPublication (planId : Id) :
    Tx (TaskStore × ArtifactPublicationAuthorizationDecision) := do
  let plan ← s.loadPlan planId
  if plan.state ≠ .planned then
    pure (s, .replayed plan)
  else
    let (task, permit, attempt) ← s.loadArtifactContext plan.taskId plan.attemptId
      plan.attemptGeneration plan.permitId
    refuseIf (permit.writeSetRoot ≠ plan.writeSetRoot) (.invalidArtifactPublicationPlan
      "durable plan root differs from permit write_set_root")
    refuseIf (task.head ≠ permit.expectedHead) .staleTaskHead
    s.validateCommitBinding attempt.attemptId permit.groupBinding
    let artifactWrites := ((s.loadWriteSetByRoot plan.taskId permit.writeSetRoot).map
      TaskWriteSetRecord.artifactWrites).getD []
    refuseIf (s.listSlots plan.permitId ≠ [])
      (if artifactWrites ≠ [] then .mixedEffectArtifactWriteSet
        else .invalidArtifactPublicationPlan
          "Artifact publication authorization requires an artifact-only permit")
    let s ← s.updatePlanState planId .planned .publishing
    pure (s, .authorized { plan with state := .publishing })

/-- Consumes one receipt; an identical one is skipped. The permit is not looked at. -/
def recordPublication (plan : ArtifactCommitPlanRecord)
    (receipt : NestedArtifactPublicationReceipt) : Tx TaskStore := do
  validatePublicationReceipt plan receipt
  match s.publications.find? fun row => row.1 = plan.planId ∧
      row.2.stagingId = receipt.stagingId with
  | some existing => do
    refuseIf (existing.2 ≠ receipt) (.artifactPublicationConflict
      "staging expectation already consumed by different receipt")
    pure s
  | none => do
    refuseIf (∃ row ∈ s.publications, row.2.receiptId = receipt.receiptId)
      (.artifactPublicationConflict "receipt identity already belongs to another staging slot")
    pure { s with publications := s.publications ++ [(plan.planId, receipt)] }

def recordPublications (plan : ArtifactCommitPlanRecord) :
    List NestedArtifactPublicationReceipt → TaskStore → Tx TaskStore
  | [], s => .ok s
  | receipt :: rest, s => do
    let s ← s.recordPublication plan receipt
    recordPublications plan rest s

def recordArtifactPublications (planId : Id) (receipts : List NestedArtifactPublicationReceipt) :
    Tx (TaskStore × ArtifactCommitProgress) := do
  refuseIf (receipts = []) (.artifactPublicationConflict "receipt batch must not be empty")
  let plan ← s.loadPlan planId
  refuseIf (plan.state = .planned)
    (.artifactPublicationConflict "Artifact publication was not authorized by TaskAuthority")
  refuseIf (plan.state = .finalized)
    (.artifactPublicationConflict "finalized plan cannot consume publication receipts")
  let s ← recordPublications plan receipts s
  let publications := s.loadPublications planId
  let state : ArtifactCommitPlanState :=
    if publications.length = plan.expectations.length then .ready else .publishing
  -- An unchanged state is written back: only the time of the row would differ.
  let s ← s.updatePlanState planId plan.state state
  pure (s, ⟨{ plan with state := state }, publications⟩)

def sequenceReceipt (task : TaskRecord) (permit : PermitRecord) (attempt : AttemptRecord)
    (commitSeq : ℕ) : TaskReceiptRecord :=
  terminalReceipt (deriveCommitReceiptId permit.permitId) task permit attempt
    permit.participantRegistryBinding .committed { task.head with commitSeq := commitSeq }

def finalizeReadyPlan (plan : ArtifactCommitPlanRecord) : Tx (TaskStore × TaskReceiptRecord) := do
  let (task, permit, attempt) ← s.loadArtifactContext plan.taskId plan.attemptId
    plan.attemptGeneration plan.permitId
  refuseIf (permit.writeSetRoot ≠ plan.writeSetRoot) (.invalidArtifactPublicationPlan
    "durable plan root differs from permit write_set_root")
  refuseIf (task.head ≠ permit.expectedHead) .staleTaskHead
  s.validateCommitBinding attempt.attemptId permit.groupBinding
  let _ ← s.validateFrozenBinding task permit.participantRegistryBinding
  refuseIf (s.listSlots plan.permitId ≠ []) (.invalidArtifactPublicationPlan
    "Artifact finalize requires an artifact-only permit")
  let commitSeq ← orRefuse (checkedSucc task.head.commitSeq) .epochExhausted
  let controlEpoch ← orRefuse (checkedSucc task.controlEpoch) .epochExhausted
  let receipt := sequenceReceipt task permit attempt commitSeq
  let s ← s.writeTerminal task permit attempt receipt none none .committed controlEpoch
  let s ← s.finalizePlan plan.planId receipt.receiptId
  pure (s, receipt)

def loadReceipt (taskId receiptId : Id) : Tx TaskReceiptRecord :=
  orRefuse (s.receipts.find? fun r => r.taskId = taskId ∧ r.receiptId = receiptId) .receiptNotFound

def finalizeArtifactCommit (planId : Id) : Tx (TaskStore × ArtifactFinalizeDecision) := do
  let plan ← s.loadPlan planId
  let publications := s.loadPublications planId
  validateProgress plan publications
  if plan.state = .finalized then
    let receiptId ← orRefuse plan.taskReceiptId
      (.corruptRecord "finalized Artifact plan lacks Task receipt")
    let receipt ← s.loadReceipt plan.taskId receiptId
    pure (s, .replayed ⟨receipt, publications⟩)
  else
    refuseIf (plan.state ≠ .ready) (.artifactCommitPlanNotReady plan.state)
    let (s, receipt) ← s.finalizeReadyPlan plan
    pure (s, .committed ⟨receipt, publications⟩)

end TaskStore

end Nlos.Task
