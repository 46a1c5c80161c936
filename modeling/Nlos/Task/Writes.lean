import Nlos.Task.Authority
import Nlos.Task.Ledger

/-!
# What the reads find and the writes change

One lemma per row-level read and write of the store: a read finds a stored row with the requested
identity, a write changes the ledger in one place or not at all.
-/

namespace Nlos.Task

open Lib

variable {taskId permitId : Id} {task : TaskRecord} {slot : SlotRecord} {permit : PermitRecord}

namespace TaskStore

variable {s t : TaskStore}

def LeaseLive (s : TaskStore) (binding : AuthorityLeaseBinding) (nowMs : ℤ) : Prop :=
  (∃ current, s.lease = some current ∧ current.binding = binding) ∧ nowMs < binding.expiresAtMs

/-- A permit issued under a lease is touched by a caller that presents that lease while it is
live, or, once it was adopted across terms, the live lease of the successor. -/
def Fenced (s : TaskStore) (permit : PermitRecord) (lease : Option AuthorityLeaseRecord)
    (nowMs : ℤ) : Prop :=
  ∀ binding, permit.authorityLeaseBinding = some binding →
    ∃ presented, lease = some presented ∧ s.LeaseLive presented.binding nowMs ∧
      (presented.binding = binding ∨
        ∃ adoption ∈ s.adoptions, adoption.originalPermitId = permit.permitId ∧
          adoption.crossTerm.isSome ∧ adoption.authorityLeaseBinding = some presented.binding)

/-- The call may touch the permit. -/
def Admits (s : TaskStore) (permitId : Id) (lease : Option AuthorityLeaseRecord) (nowMs : ℤ) :
    Prop :=
  ∃ permit ∈ s.permits, permit.permitId = permitId ∧ s.Fenced permit lease nowMs

/-- An accepted binding is that of the current lease, which has not expired. -/
lemma leaseLive_of_validate
    (h : s.validateAuthorityLeaseBinding binding nowMs = .ok u) : s.LeaseLive binding nowMs := by
  simp only [validateAuthorityLeaseBinding, bind_eq_ok, refuseIf_eq_ok, orRefuse_eq_ok,
    not_not, not_le] at h
  obtain ⟨-, -, -, -, current, hcurrent, -, hbinding, hlive⟩ := h
  exact ⟨⟨current, hcurrent, hbinding⟩, hlive⟩

/-- A leased permit is used only with its own lease while that is live. -/
lemma fenced_of_validate {nowMs lease u}
    (h : s.validatePermitAuthorityLease permit nowMs lease = .ok u) :
    s.Fenced permit lease nowMs := by
  intro binding hbinding
  unfold validatePermitAuthorityLease at h
  rw [hbinding] at h
  cases lease with
  | none => cases h
  | some presented =>
    simp only [bind_eq_ok, refuseIf_eq_ok, not_not] at h
    obtain ⟨-, rfl, hvalid⟩ := h
    exact ⟨presented, rfl, leaseLive_of_validate hvalid, .inl rfl⟩

/-- Across terms the lease of the successor stands for the lease of the permit. -/
lemma fenced_of_validateCrossAdoption {adoption nowMs lease evidence current}
    (hadoption : adoption ∈ s.adoptions) (hpermit : adoption.originalPermitId = permit.permitId)
    (hcross : adoption.crossTerm.isSome)
    (h : s.validateCrossAdoption task permit adoption nowMs lease evidence = .ok current) :
    s.Fenced permit lease nowMs := by
  simp only [validateCrossAdoption, validateCrossTermAdoptionContext, bind_eq_ok, pure_eq_ok,
    refuseIf_eq_ok, not_not, orRefuse_eq_ok] at h
  obtain ⟨presented, rfl, registry, ⟨-, -, -, -, -, -, -, -, -, -, -, -, -, -, -, -, -, -, _,
    hvalid, -⟩, -, hbinding, -⟩ := h
  intro binding _
  exact ⟨presented, rfl, leaseLive_of_validate hvalid,
    .inr ⟨adoption, hadoption, hpermit, hcross, hbinding⟩⟩

lemma mem_of_loadTask (h : s.loadTask taskId = .ok task) :
    task ∈ s.tasks ∧ task.taskId = taskId := by
  have hfound := mem_of_find? (orRefuse_eq_ok.mp h)
  simpa using hfound

lemma head_of_loadTask (h : s.loadTask taskId = .ok task) :
    (taskId, task.head) ∈ s.ledger.heads := by
  obtain ⟨hmem, rfl⟩ := mem_of_loadTask h
  exact List.mem_map_of_mem hmem

lemma fence_of_loadTask (h : s.loadTask taskId = .ok task) :
    (taskId, task.cancelEpoch, task.state) ∈ s.ledger.fences := by
  obtain ⟨hmem, rfl⟩ := mem_of_loadTask h
  exact List.mem_map_of_mem hmem

lemma mem_of_loadAttempt (h : s.loadAttempt taskId attemptId = .ok attempt) :
    attempt ∈ s.attempts ∧ attempt.taskId = taskId ∧ attempt.attemptId = attemptId := by
  have hfound := mem_of_find? (orRefuse_eq_ok.mp h)
  simpa using hfound

lemma mem_of_loadPermitById (h : s.loadPermitById taskId permitId = .ok permit) :
    permit ∈ s.permits ∧ permit.taskId = taskId ∧ permit.permitId = permitId := by
  have hfound := mem_of_find? (orRefuse_eq_ok.mp h)
  simpa using hfound

lemma mem_of_loadSlot (h : s.loadSlot permitId effectSeq = .ok slot) :
    slot ∈ s.slots ∧ slot.permitId = permitId ∧ slot.effectSeq = effectSeq := by
  have hfound := mem_of_find? (orRefuse_eq_ok.mp h)
  simpa using hfound

lemma mem_of_loadEffectPermitById
    (h : s.loadEffectPermitById taskId effectPermitId = .ok token) :
    token ∈ s.effectPermits ∧ token.taskId = taskId := by
  obtain ⟨hmem, hcond⟩ := mem_of_find? (orRefuse_eq_ok.mp h)
  exact ⟨hmem, (of_decide_eq_true hcond).1⟩

lemma mem_of_loadPlan
    (h : s.loadPlan planId = .ok plan) : plan ∈ s.artifactPlans ∧ plan.planId = planId := by
  have hfound := mem_of_find? (orRefuse_eq_ok.mp h)
  simpa using hfound

lemma mem_listSlots :
    slot ∈ s.listSlots permitId ↔ slot ∈ s.slots ∧ slot.permitId = permitId := by
  simp [listSlots]

/-- Where no blocking slot is counted, every slot is settled. -/
lemma settled_of_countBlocking (h : ¬ 0 < s.countBlocking permitId)
    (hslot : slot ∈ s.slots) (hid : slot.permitId = permitId) :
    slot.state.blocksFinalization = false := by
  have hcount : s.countBlocking permitId = 0 := by omega
  have hnone := List.countP_eq_zero.mp hcount slot (mem_listSlots.mpr ⟨hslot, hid⟩)
  simpa using hnone

lemma settled_of_listSlots_eq_nil (h : s.listSlots permitId = []) :
    ∀ slot ∈ s.slots, slot.permitId = permitId → slot.state.blocksFinalization = false := by
  intro slot hslot hid
  have hmem := mem_listSlots.mpr ⟨hslot, hid⟩
  rw [h] at hmem
  cases hmem

lemma ledger_updateTask
    (hhead : ∀ task, ((mutate task).taskId, (mutate task).head) = (task.taskId, task.head))
    (hfence : ∀ task, ((mutate task).taskId, (mutate task).cancelEpoch, (mutate task).state) =
      (task.taskId, task.cancelEpoch, task.state)) :
    (s.updateTask taskId mutate).ledger = s.ledger := by
  simp only [ledger, updateTask]
  congr 1
  · exact map_updateRows hhead
  · exact map_updateRows hfence

@[simp] lemma ledger_updateTask_controlEpoch :
    (s.updateTask taskId fun t => { t with controlEpoch := controlEpoch }).ledger = s.ledger :=
  ledger_updateTask (fun _ => rfl) fun _ => rfl

lemma ledger_of_insertEffectReceipt
    (h : s.insertEffectReceipt receipt = .ok t) : t.ledger = s.ledger := by
  simp only [insertEffectReceipt, bind_eq_ok, pure_eq_ok] at h
  obtain ⟨-, -, rfl⟩ := h
  rfl

lemma ledger_of_insertFinalizeProof
    (h : s.insertFinalizeProof receiptId proof = .ok t) : t.ledger = s.ledger := by
  cases proof with
  | none =>
    cases h
    rfl
  | some =>
    simp only [insertFinalizeProof, bind_eq_ok, pure_eq_ok] at h
    obtain ⟨-, -, rfl⟩ := h
    rfl

lemma ledger_of_insertAdoption
    (h : s.insertAdoption record = .ok t) : t.ledger = s.ledger := by
  simp only [insertAdoption, bind_eq_ok, pure_eq_ok] at h
  obtain ⟨-, -, rfl⟩ := h
  rfl

lemma ledger_of_insertReconcileReceipt
    (h : s.insertReconcileReceipt record = .ok t) : t.ledger = s.ledger := by
  simp only [insertReconcileReceipt, bind_eq_ok, pure_eq_ok] at h
  obtain ⟨-, -, rfl⟩ := h
  rfl

lemma ledger_of_insertSnapshotIfAbsent
    (h : s.insertSnapshotIfAbsent taskId snapshot = .ok t) : t.ledger = s.ledger := by
  unfold insertSnapshotIfAbsent at h
  split at h
  · simp only [bind_eq_ok, pure_eq_ok] at h
    obtain ⟨-, -, rfl⟩ := h
    rfl
  · cases h
    rfl

lemma ledger_of_advanceSequence {read write next}
    (h : s.advanceSequence taskId read write = .ok (t, next)) : t.ledger = s.ledger := by
  unfold advanceSequence at h
  split at h
  · cases h
    rfl
  · simp only [bind_eq_ok, pure_eq_ok, Prod.mk.injEq] at h
    obtain ⟨-, -, rfl, -⟩ := h
    rfl

variable {registry : ParticipantRegistryRecord}

lemma ledger_of_initializeRegistry
    (h : s.initializeRegistry task = .ok (t, registry)) : t.ledger = s.ledger := by
  unfold initializeRegistry at h
  split at h
  · obtain rfl := eq_of_bind_pure h
    rfl
  · cases h
    rfl

@[simp] lemma ledger_setRegistry :
    (s.setRegistry registry).ledger = s.ledger := rfl

/-- Registries are outside the ledger. -/
lemma ledger_of_freezeForPermit
    (h : s.freezeForPermit task = .ok (t, binding)) : t.ledger = s.ledger := by
  simp only [freezeForPermit, bind_eq_ok, Prod.exists] at h
  obtain ⟨s', registry, hinit, hstate⟩ := h
  have hledger := ledger_of_initializeRegistry hinit
  split at hstate
  · simp only [bind_eq_ok, pure_eq_ok, Prod.mk.injEq] at hstate
    obtain ⟨-, -, rfl, -⟩ := hstate
    exact hledger
  · simp only [bind_eq_ok, pure_eq_ok, Prod.mk.injEq] at hstate
    obtain ⟨-, -, -, -, rfl, -⟩ := hstate
    exact hledger
  · simp only [bind_eq_ok, pure_eq_ok, Prod.mk.injEq] at hstate
    obtain ⟨-, -, -, -, rfl, -⟩ := hstate
    exact hledger
  · simp only [bind_eq_ok, reduceCtorEq, false_and, exists_false] at hstate

lemma ledger_of_freezeForTakeover
    (h : s.freezeForTakeover task expected = .ok (t, registry)) : t.ledger = s.ledger := by
  simp only [freezeForTakeover, bind_eq_ok, Prod.exists] at h
  obtain ⟨s', current, hinit, -, -, hstate⟩ := h
  split at hstate
  · cases hstate
    exact ledger_of_initializeRegistry hinit
  · cases hstate
    rw [ledger_setRegistry, ledger_of_initializeRegistry hinit]
  · cases hstate
    rw [ledger_setRegistry, ledger_of_initializeRegistry hinit]
  · cases hstate

lemma ledger_of_reopenAfterTakeover
    (h : s.reopenAfterTakeover task expected = .ok t) : t.ledger = s.ledger := by
  simp only [reopenAfterTakeover, bind_eq_ok, pure_eq_ok, Prod.exists] at h
  obtain ⟨s', registry, hinit, -, -, -, -, next, -, rfl⟩ := h
  rw [ledger_setRegistry, ledger_of_initializeRegistry hinit]

lemma ledger_of_reopenRegistryOnPermitClosure
    (h : s.reopenRegistryOnPermitClosure task binding = .ok t) : t.ledger = s.ledger := by
  cases binding with
  | none =>
    cases h
    rfl
  | some =>
    simp only [reopenRegistryOnPermitClosure, bind_eq_ok, Prod.exists] at h
    obtain ⟨s', registry, hinit, hstate⟩ := h
    split at hstate
    · cases hstate
      exact ledger_of_initializeRegistry hinit
    · simp only [bind_eq_ok, pure_eq_ok] at hstate
      obtain ⟨next, -, rfl⟩ := hstate
      rw [ledger_setRegistry, ledger_of_initializeRegistry hinit]

/-- A compare-and-swap on the state of the attempt. -/
lemma ledger_of_setAttemptState
    (h : s.setAttemptState attempt state receiptId = .ok t) :
    (∃ a ∈ s.attempts, a.attemptId = attempt.attemptId ∧ a.state = attempt.state) ∧
      t.ledger = { s.ledger with
        attempts := moveAttempt attempt state receiptId s.ledger.attempts } := by
  simp only [setAttemptState, bind_eq_ok, pure_eq_ok, refuseIf_eq_ok, not_not] at h
  obtain ⟨-, hfound, rfl⟩ := h
  exact ⟨hfound, rfl⟩

/-- A receipt is stored once. -/
lemma insertReceipt_eq_ok (h : s.insertReceipt receipt = .ok t) :
    (∀ r ∈ s.receipts, r.receiptId ≠ receipt.receiptId) ∧
      t = { s with receipts := s.receipts ++ [receipt] } := by
  simp only [insertReceipt, bind_eq_ok, pure_eq_ok, orRefuse_eq_ok, insertRow_eq_some] at h
  obtain ⟨receipts, ⟨hfresh, rfl⟩, rfl⟩ := h
  exact ⟨hfresh, rfl⟩

lemma ledger_of_casPermit (h : s.casPermit permitId old new reason = .ok t) :
    t.ledger = { s.ledger with permits := movePermit permitId old new s.ledger.permits } := by
  simp only [casPermit, bind_eq_ok, pure_eq_ok] at h
  obtain ⟨-, -, rfl⟩ := h
  rfl

/-- A compare-and-swap on the state and the sequence number of the slot. -/
lemma ledger_of_casSlot
    (h : s.casSlot slot target effectPermitId effectReceiptId = .ok (t, updated)) :
    t.ledger = { s.ledger with
      slots := moveSlot slot target effectPermitId effectReceiptId s.ledger.slots } ∧
      updated = slot.moved target effectPermitId effectReceiptId := by
  simp only [casSlot, bind_eq_ok, pure_eq_ok, Prod.mk.injEq] at h
  obtain ⟨-, -, -, -, rfl, rfl⟩ := h
  exact ⟨rfl, rfl⟩

lemma ledger_of_finalizePlan (h : s.finalizePlan planId receiptId = .ok t) :
    t.ledger = { s.ledger with
      plans := updateRows (fun p : ArtifactCommitPlanRecord =>
          p.planId = planId ∧ p.state = .ready ∧ p.taskReceiptId = none)
        (fun p => { p with state := .finalized, taskReceiptId := some receiptId })
        s.ledger.plans } := by
  simp only [finalizePlan, bind_eq_ok, pure_eq_ok] at h
  obtain ⟨-, -, rfl⟩ := h
  rfl

lemma ledger_of_appendHistoryEntry {receiptId fence outcome operationId}
    (h : s.appendHistoryEntry taskId fence slot outcome receiptId operationId = .ok t) :
    ∃ entry : EffectHistoryEntry, entry.taskId = taskId ∧
      entry.logicalEffectId = slot.logicalEffectId ∧ entry.outcome = outcome ∧
      t.ledger = { s.ledger with history := s.ledger.history ++ [entry] } := by
  simp only [appendHistoryEntry, bind_eq_ok, pure_eq_ok, Prod.exists] at h
  obtain ⟨s', next, hadvance, rfl⟩ := h
  have hledger := ledger_of_advanceSequence hadvance
  refine ⟨{
    effectHistorySeq := next, taskId, retryFenceEpoch := fence, operationId, outcome
    authoritativeEffectReceiptId := receiptId
    logicalEffectId := slot.logicalEffectId
    actionProposalDigest := slot.actionProposalDigest
    idempotencyIdentityDigest := slot.idempotencyIdentityDigest }, rfl, rfl, rfl, ?_⟩
  rw [← hledger]
  rfl

end TaskStore

end Nlos.Task
