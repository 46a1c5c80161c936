import Nlos.Task.EffectSteps
import Nlos.Task.LedgerSound

/-!
# Termination of permits as ledger changes

Commits, closures, Artifact and semantic commits and the reclaim drive: a permit enters
quarantine or ends with a truthful receipt, and nothing else of the ledger moves.
-/

namespace Nlos.Task

open Lib

/-- What a call that may end the permit is remembered for. -/
def Terminates (permitId : Id) (mark : Mark) : Prop :=
  mark = .quiet ∨ mark = .touched permitId ∨ mark = .terminated permitId

lemma Steps.sound {allowed : Mark → Prop} (h : Steps allowed s t)
    (hsound : s.ledger.Sound) : t.ledger.Sound := by
  obtain ⟨marks, hchanges, -⟩ := h
  exact hchanges.invariant (fun hl hchange => hchange.sound hl) hsound

namespace TaskStore

variable {s t : TaskStore}

variable {taskId permitId planId : Id}

lemma mem_of_loadAdoptionByPermit
    (h : s.loadAdoptionByPermit taskId permitId = some adoption) :
    adoption ∈ s.adoptions ∧ adoption.originalPermitId = permitId := by
  unfold loadAdoptionByPermit at h
  rcases Option.or_eq_some_iff.mp h with hfound | ⟨-, hfound⟩
  · obtain ⟨hmem, hcond⟩ := mem_of_find? hfound
    exact ⟨hmem, (by simpa using hcond : _ ∧ _ ∧ _).2.1⟩
  · obtain ⟨hmem, hcond⟩ := mem_of_find? hfound
    exact ⟨hmem, (by simpa using hcond : _ ∧ _).2⟩

variable {task : TaskRecord} {permit : PermitRecord} {record : QuarantineReceiptRecord}

/-- Quarantine writes a tombstone and keeps the permit outstanding. -/
lemma quarantinePermit_steps
    (h : s.quarantinePermit task permit digest = .ok (t, record)) :
    Steps (· = .touched permit.permitId) s t := by
  unfold quarantinePermit at h
  split at h
  · obtain rfl := eq_of_bind_pure h
    exact .of_ledger rfl
  · simp only [bind_eq_ok, pure_eq_ok, Prod.mk.injEq] at h
    obtain ⟨first, -, quarantines, -, held, hcas, rfl, -⟩ := h
    refine .single (m := .touched permit.permitId) ?_ rfl
    rw [ledger_of_casPermit hcas]
    exact .held rfl rfl

lemma quarantineDecision_steps
    (h : s.quarantineDecision task permit digest bump = .ok (t, record)) :
    Steps (· = .touched permit.permitId) s t := by
  simp only [quarantineDecision, bind_eq_ok, Prod.exists] at h
  obtain ⟨held, found, hquarantine, h⟩ := h
  have hsteps := quarantinePermit_steps hquarantine
  split at h
  · simp only [bind_eq_ok, pure_eq_ok, Prod.mk.injEq] at h
    obtain ⟨controlEpoch, -, rfl, -⟩ := h
    exact hsteps.trans (.of_ledger ledger_updateTask_controlEpoch)
  · cases h
    exact hsteps

lemma ledger_of_quarantineDecision_quarantined (hsound : s.ledger.Sound)
    (hpermit : permit ∈ s.permits) (hquarantined : permit.state = .quarantined)
    (h : s.quarantineDecision task permit digest false = .ok (t, record)) :
    t.ledger = s.ledger := by
  simp only [quarantineDecision, bind_eq_ok, Prod.exists] at h
  obtain ⟨held, found, hquarantine, h⟩ := h
  cases h
  unfold quarantinePermit at hquarantine
  split at hquarantine
  · simp only [bind_eq_ok, pure_eq_ok, Prod.mk.injEq] at hquarantine
    obtain ⟨-, -, rfl, -⟩ := hquarantine
    rfl
  · simp only [casPermit, bind_eq_ok, pure_eq_ok, refuseIf_eq_ok, not_not,
      Prod.mk.injEq] at hquarantine
    obtain ⟨-, -, -, -, -, ⟨-, ⟨other, hother, hid, hissued⟩, -⟩, -, -⟩ := hquarantine
    have heq : other = permit := hsound.permits.eq hother hpermit hid
    rw [heq, hquarantined] at hissued
    cases hissued

variable {attempt : AttemptRecord}

/-- A terminal receipt sets the head, closes the permit and ends its attempt in one transaction. -/
lemma writeTerminal_spec
    (h : s.writeTerminal task permit attempt receipt proof reopened state controlEpoch = .ok t) :
    (∀ r ∈ s.receipts, r.receiptId ≠ receipt.receiptId) ∧ t.ledger = { s.ledger with
        heads := setHead task.taskId receipt.new s.ledger.heads
        attempts := moveAttempt attempt state (some receipt.receiptId) s.ledger.attempts
        permits := movePermit permit.permitId .issued .closed s.ledger.permits
        receipts := s.ledger.receipts ++ [receipt] } := by
  simp only [writeTerminal, bind_eq_ok, pure_eq_ok] at h
  obtain ⟨inserted, hinsert, proved, hproof, closed, hclose, reopenedStore, hreopen, ended,
    hattempt, rfl⟩ := h
  obtain ⟨hfresh, rfl⟩ := insertReceipt_eq_ok hinsert
  refine ⟨hfresh, ?_⟩
  have hledger : ended.ledger = { s.ledger with
      attempts := moveAttempt attempt state (some receipt.receiptId) s.ledger.attempts
      permits := movePermit permit.permitId .issued .closed s.ledger.permits
      receipts := s.ledger.receipts ++ [receipt] } := by
    rw [(ledger_of_setAttemptState hattempt).2, ledger_of_reopenRegistryOnPermitClosure hreopen,
      ledger_of_casPermit hclose, ledger_of_insertFinalizeProof hproof]
    rfl
  have hheads : (ended.updateTask task.taskId fun row =>
      { row with head := receipt.new, controlEpoch := controlEpoch }).ledger =
        { ended.ledger with heads := setHead task.taskId receipt.new ended.ledger.heads } := by
    simp only [ledger, updateTask, setHead]
    congr 1
    · exact map_updateRows_view (fun _ => Iff.rfl) (fun _ => rfl)
    · exact map_updateRows fun _ => rfl
  rw [hheads, hledger]

structure Holds (s : TaskStore) (task : TaskRecord) (permit : PermitRecord)
    (attempt : AttemptRecord) : Prop where
  taskId : task.taskId = permit.taskId
  head : (permit.taskId, task.head) ∈ s.ledger.heads
  mem : permit ∈ s.permits
  issued : permit.state = .issued
  attempt_mem : attempt ∈ s.attempts
  attempt_taskId : attempt.taskId = permit.taskId
  attempt_id : attempt.attemptId = permit.attemptId

lemma Holds.of_load (htask : s.loadTask taskId = .ok task)
    (hpermit : s.loadPermitById taskId permitId = .ok permit)
    (hattempt : s.loadAttempt taskId attemptId = .ok attempt) (hissued : permit.state = .issued)
    (hholder : permit.attemptId = attemptId) : Holds s task permit attempt where
  taskId := (mem_of_loadTask htask).2.trans (mem_of_loadPermitById hpermit).2.1.symm
  head := (mem_of_loadPermitById hpermit).2.1 ▸ head_of_loadTask htask
  mem := (mem_of_loadPermitById hpermit).1
  issued := hissued
  attempt_mem := (mem_of_loadAttempt hattempt).1
  attempt_taskId :=
    (mem_of_loadAttempt hattempt).2.1.trans (mem_of_loadPermitById hpermit).2.1.symm
  attempt_id := (mem_of_loadAttempt hattempt).2.2.trans hholder.symm

section Terminal

variable {task : TaskRecord} {permit : PermitRecord} {attempt : AttemptRecord}
  {receiptId : Id} {binding : Option ParticipantRegistryBinding} {outcome : ReceiptOutcome}
  {new : Head} {proof : Option Digest} {reopened : Option ParticipantRegistryBinding}
  {state : AttemptState} {controlEpoch : ℕ}

lemma termination_of_writeTerminal (hholds : Holds s task permit attempt)
    (hsettled : ∀ slot ∈ s.slots, slot.permitId = permit.permitId →
      slot.state.blocksFinalization = false) (htruthful : Truthful s.slots
      (terminalReceipt receiptId task permit attempt binding outcome new) permit.permitId)
    (h : s.writeTerminal task permit attempt
      (terminalReceipt receiptId task permit attempt binding outcome new) proof reopened state
      controlEpoch = .ok t) : Termination s.ledger permit attempt
      (terminalReceipt receiptId task permit attempt binding outcome new) where
  mem := hholds.mem
  attempt_mem := hholds.attempt_mem
  attempt_taskId := hholds.attempt_taskId
  attempt_id := hholds.attempt_id
  receipt_attempt := rfl
  issued := hholds.issued
  fresh := (writeTerminal_spec h).1
  permitId := rfl
  taskId := hholds.taskId
  head := hholds.head
  settled := hsettled
  truthful := htruthful

/-- The same as a change that leaves the Artifact plans. -/
lemma writeTerminal_steps (hholds : Holds s task permit attempt)
    (hsettled : ∀ slot ∈ s.slots, slot.permitId = permit.permitId →
      slot.state.blocksFinalization = false) (htruthful : Truthful s.slots
      (terminalReceipt receiptId task permit attempt binding outcome new) permit.permitId)
    (hended : state.isEnded = true) (h : s.writeTerminal task permit attempt
      (terminalReceipt receiptId task permit attempt binding outcome new) proof reopened state
      controlEpoch = .ok t) : Steps (Terminates permit.permitId) s t := by
  have htermination := termination_of_writeTerminal hholds hsettled htruthful h
  refine .single (m := .terminated permit.permitId) ?_ (.inr (.inr rfl))
  rw [(writeTerminal_spec h).2, hholds.taskId]
  exact .terminated htermination hended .untouched

variable {receipt : TaskReceiptRecord}

lemma finalizeLegacy_steps (hholds : Holds s task permit attempt)
    (h : s.finalizeLegacy task permit attempt request = .ok (t, receipt)) :
    Steps (Terminates permit.permitId) s t := by
  simp only [finalizeLegacy, bind_eq_ok, pure_eq_ok, refuseIf_eq_ok, orRefuse_eq_ok,
    checkedSucc_eq_some, Prod.mk.injEq] at h
  obtain ⟨-, hblocking, -, hfence, commitSeq, ⟨-, rfl⟩, controlEpoch, -, ended, hwrite, rfl, -⟩ := h
  refine writeTerminal_steps hholds ?_ ?_ rfl hwrite
  · intro slot hslot hid
    exact settled_of_countBlocking hblocking hslot hid
  · exact ⟨rfl, not_lt.mp hfence⟩

/-- The entries of unsatisfied effects never claim a closure. -/
lemma appendPartialEntries_spec {taskId newFence slots unsatisfied}
    (h : appendPartialEntries taskId newFence slots unsatisfied s = .ok t) :
    ∃ entries : List EffectHistoryEntry, (∀ entry ∈ entries, entry.outcome ≠ .effectClosed) ∧
      t.ledger = { s.ledger with history := s.ledger.history ++ entries } := by
  induction unsatisfied generalizing s with
  | nil =>
    cases h
    exact ⟨[], by simp, by simp⟩
  | cons effectSeq rest ih =>
    simp only [appendPartialEntries, bind_eq_ok] at h
    obtain ⟨slot, -, receiptId, -, noted, hnote, hrest⟩ := h
    obtain ⟨entry, -, -, houtcome, hnoted⟩ := ledger_of_appendHistoryEntry hnote
    obtain ⟨entries, hentries, hledger⟩ := ih hrest
    refine ⟨entry :: entries, ?_, ?_⟩
    · intro other hother
      rcases List.mem_cons.mp hother with rfl | hother
      · rw [houtcome]
        decide
      · exact hentries other hother
    · rw [hledger, hnoted, List.append_assoc]
      rfl

/-- What the evaluation of the required slots allows a commit to say. -/
def OutcomeJustified (slots : List SlotRecord) (oldFence newFence : ℕ) : ReceiptOutcome → Prop
  | .committed => newFence = oldFence
  | .partialEffect | .failedAfterEffect =>
    newFence = oldFence + 1 ∧ ∃ slot ∈ slots, slot.state = .effectClosed
  | _ => False

/-- The outcome is the one the slots justify. -/
lemma outcomeAndEntries_spec {slots evaluation newFence}
    (h : s.outcomeAndEntries task slots evaluation = .ok (t, outcome, newFence)) :
    (∃ entries : List EffectHistoryEntry, (∀ entry ∈ entries, entry.outcome ≠ .effectClosed) ∧
      t.ledger = { s.ledger with history := s.ledger.history ++ entries }) ∧
      OutcomeJustified slots task.head.retryFenceEpoch newFence outcome := by
  unfold outcomeAndEntries at h
  split at h
  · cases h
    exact ⟨⟨[], by simp, by simp⟩, rfl⟩
  · simp only [bind_eq_ok, pure_eq_ok, refuseIf_eq_ok, not_not, orRefuse_eq_ok,
      checkedSucc_eq_some, Prod.mk.injEq] at h
    obtain ⟨-, hclosed, fence, ⟨-, rfl⟩, noted, hnotes, rfl, rfl, rfl⟩ := h
    refine ⟨appendPartialEntries_spec hnotes, ?_⟩
    split
    · exact ⟨rfl, hclosed⟩
    · exact ⟨rfl, hclosed⟩

lemma truthful_of_outcomeJustified
    (h : OutcomeJustified (s.listSlots permit.permitId) task.head.retryFenceEpoch newFence
      outcome) :
    Truthful s.slots (terminalReceipt receiptId task permit attempt binding outcome
      ⟨task.head.commitSeq + 1, root, newFence⟩) permit.permitId := by
  cases outcome with
  | committed => exact ⟨rfl, le_of_eq (Eq.symm h)⟩
  | partialEffect | failedAfterEffect =>
    obtain ⟨hfence, slot, hslot, hclosed⟩ := h
    obtain ⟨hmem, hid⟩ := mem_listSlots.mp hslot
    exact ⟨rfl, hfence, slot, hmem, hid, hclosed⟩
  | failedBeforeEffect | cancelledBeforeEffect => exact h.elim

variable {request : FinalizeRequestV3}

/-- A finalization with proofs ends its permit, whatever its outcome. -/
lemma finalizeRequired_steps (hholds : Holds s task permit attempt)
    (h : s.finalizeRequired task permit attempt binding request = .ok (t, receipt)) :
    Steps (Terminates permit.permitId) s t := by
  simp only [finalizeRequired, writeCommitReceipt, bind_eq_ok, pure_eq_ok, refuseIf_eq_ok,
    orRefuse_eq_ok, checkedSucc_eq_some, Prod.exists, Prod.mk.injEq] at h
  obtain ⟨-, hblocking, evaluation, -, noted, ended, newFence, hentries, commitSeq, ⟨-, rfl⟩,
    controlEpoch, -, final, hwrite, rfl, -⟩ := h
  obtain ⟨⟨entries, hnotes, hledger⟩, hjustified⟩ := outcomeAndEntries_spec hentries
  have hslots : noted.slots = s.slots := congrArg Ledger.slots hledger
  have hnoted : Steps (Terminates permit.permitId) s noted := by
    refine .single (m := .quiet) ?_ (.inl rfl)
    rw [hledger]
    exact .noted hnotes
  have hholds' : Holds noted task permit attempt :=
    { hholds with
      head := by
        rw [hledger]
        exact hholds.head
      mem := by
        have hpermits : noted.permits = s.permits := congrArg Ledger.permits hledger
        exact hpermits ▸ hholds.mem
      attempt_mem := by
        have hattempts : noted.attempts = s.attempts := congrArg Ledger.attempts hledger
        exact hattempts ▸ hholds.attempt_mem }
  refine hnoted.trans (writeTerminal_steps hholds' ?_ ?_ (by split <;> rfl) hwrite)
  · intro slot hslot hid
    exact settled_of_countBlocking hblocking (hslots ▸ hslot) hid
  · rw [hslots]
    exact truthful_of_outcomeJustified hjustified

variable {evidence : TerminalEvidence}

lemma finalizeIssued_steps
    (hholds : permit.attemptId = request.base.attemptId → Holds s task permit attempt)
    (h : s.finalizeIssued task permit attempt adoption binding request legacy evidence =
      .ok (t, decision)) : Steps (Terminates permit.permitId) s t := by
  simp only [finalizeIssued, bind_eq_ok, refuseIf_eq_ok, not_or, not_not] at h
  obtain ⟨-, ⟨hholder, -⟩, -, -, -, -, h⟩ := h
  replace hholds := hholds hholder
  split at h
  · simp only [bind_eq_ok, pure_eq_ok, Prod.exists, Prod.mk.injEq] at h
    obtain ⟨ended, receipt, hlegacy, rfl, -⟩ := h
    exact finalizeLegacy_steps hholds hlegacy
  · simp only [bind_eq_ok] at h
    obtain ⟨-, -, h⟩ := h
    split at h
    · simp only [bind_eq_ok, pure_eq_ok, Prod.exists, Prod.mk.injEq] at h
      obtain ⟨held, record, hquarantine, rfl, -⟩ := h
      exact (quarantineDecision_steps hquarantine).mono fun _ hmark => .inr (.inl hmark)
    · simp only [bind_eq_ok, pure_eq_ok, Prod.exists, Prod.mk.injEq] at h
      obtain ⟨ended, receipt, hrequired, rfl, -⟩ := h
      exact finalizeRequired_steps hholds hrequired

variable {lease : Option AuthorityLeaseRecord}

lemma fenced_of_effectiveRegistryBinding
    (hissued : permit.state = .issued)
    (h : s.effectiveRegistryBinding task permit (s.loadAdoptionByPermit taskId permit.permitId)
      nowMs lease takeover = .ok binding) : s.Fenced permit lease nowMs := by
  simp only [effectiveRegistryBinding, hissued, ne_eq, not_true_eq_false, if_false] at h
  split at h
  · next adoption hadoption =>
    simp only [bind_eq_ok] at h
    obtain ⟨current, hcurrent, -⟩ := h
    obtain ⟨hfound, hcross⟩ := Option.filter_eq_some_iff.mp hadoption
    obtain ⟨hmem, hid⟩ := mem_of_loadAdoptionByPermit hfound
    exact fenced_of_validateCrossAdoption hmem hid hcross hcurrent
  · simp only [bind_eq_ok] at h
    obtain ⟨_, hlease, -⟩ := h
    exact fenced_of_validate hlease

/-- Both finalizations end no permit but their own, and only under its lease. -/
lemma finalizeImpl_steps (hsound : s.ledger.Sound)
    (h : s.finalizeImpl request legacy lease evidence = .ok (t, decision)) :
    Steps (fun mark => Terminates request.base.permitId mark ∧
      s.Admits request.base.permitId lease request.base.finalizedAtMs) s t := by
  simp only [finalizeImpl, bind_eq_ok] at h
  obtain ⟨task, htask, permit, hpermit, attempt, hattempt, binding, hbinding, -, -, h⟩ := h
  obtain ⟨hmem, -, hid⟩ := mem_of_loadPermitById hpermit
  split at h
  · next hquarantined =>
    simp only [bind_eq_ok, pure_eq_ok, Prod.exists, Prod.mk.injEq] at h
    obtain ⟨held, record, hquarantine, rfl, -⟩ := h
    exact .of_ledger
      (ledger_of_quarantineDecision_quarantined hsound hmem hquarantined hquarantine)
  · obtain rfl := eq_of_bind_bind_pure h
    exact .of_ledger rfl
  · cases h
  · next hissued =>
    rw [← hid] at hbinding ⊢
    have hfenced := fenced_of_effectiveRegistryBinding hissued hbinding
    have hadmits : s.Admits permit.permitId lease request.base.finalizedAtMs :=
      ⟨permit, hmem, rfl, hfenced⟩
    exact (finalizeIssued_steps (.of_load htask hpermit hattempt hissued) h).mono
      fun _ hmark => ⟨hmark, hadmits⟩

lemma writeClosureReceipt_steps {closure} (hholds : Holds s task permit attempt)
    (hended : ∀ slot ∈ s.slots, slot.permitId = permit.permitId →
      slot.state = .noEffect ∨ slot.state = .confirmedNoEffect)
    (h : s.writeClosureReceipt task permit attempt binding closure = .ok (t, receipt)) :
    Steps (Terminates permit.permitId) s t := by
  simp only [writeClosureReceipt, bind_eq_ok, pure_eq_ok, Prod.mk.injEq] at h
  obtain ⟨controlEpoch, -, ended, hwrite, rfl, -⟩ := h
  refine writeTerminal_steps hholds ?_ ?_ (by split <;> rfl) hwrite
  · intro slot hslot hid
    rcases hended slot hslot hid with hstate | hstate
    · rw [hstate]
      rfl
    · rw [hstate]
      rfl
  · cases closure with
    | failedBeforeEffect => exact ⟨rfl, hended⟩
    | cancelledBeforeEffect => exact ⟨rfl, hended⟩

lemma closeIssued_steps {adoption request decision}
    (hholds : permit.attemptId = request.attemptId → Holds s task permit attempt)
    (h : s.closeIssued task permit attempt adoption binding request evidence = .ok (t, decision)) :
    Steps (Terminates permit.permitId) s t := by
  simp only [closeIssued, bind_eq_ok, refuseIf_eq_ok, not_or, not_not] at h
  obtain ⟨-, ⟨hholder, -⟩, -, -, h⟩ := h
  replace hholds := hholds hholder
  split at h
  · simp only [bind_eq_ok, pure_eq_ok, Prod.exists, Prod.mk.injEq] at h
    obtain ⟨held, record, hquarantine, rfl, -⟩ := h
    exact (quarantineDecision_steps hquarantine).mono fun _ hmark => .inr (.inl hmark)
  · simp only [bind_eq_ok, pure_eq_ok, refuseIf_eq_ok, Prod.exists, Prod.mk.injEq] at h
    obtain ⟨-, hblocking, -, heffects, -, -, ended, receipt, hclosure, rfl, -⟩ := h
    refine writeClosureReceipt_steps hholds ?_ hclosure
    intro slot hslot hid
    have hsettled := settled_of_countBlocking hblocking hslot hid
    have hnone : slot.state ≠ .effectClosed := by
      have hcount := List.countP_eq_zero.mp (Nat.eq_zero_of_not_pos heffects) slot
        (mem_listSlots.mpr ⟨hslot, hid⟩)
      simpa using hcount
    cases hstate : slot.state <;> simp_all [SlotState.blocksFinalization]

/-- A permit is closed before its effects only under its lease. -/
lemma closePermit_steps {request decision} (hsound : s.ledger.Sound)
    (h : s.closePermit request lease evidence = .ok (t, decision)) :
    Steps (fun mark => Terminates request.permitId mark ∧
      s.Admits request.permitId lease request.closedAtMs) s t := by
  simp only [closePermit, bind_eq_ok] at h
  obtain ⟨task, htask, permit, hpermit, attempt, hattempt, -, -, binding, hbinding, h⟩ := h
  obtain ⟨hmem, -, hid⟩ := mem_of_loadPermitById hpermit
  split at h
  · next hquarantined =>
    simp only [bind_eq_ok, pure_eq_ok, Prod.exists, Prod.mk.injEq] at h
    obtain ⟨held, record, hquarantine, rfl, -⟩ := h
    exact .of_ledger
      (ledger_of_quarantineDecision_quarantined hsound hmem hquarantined hquarantine)
  · simp only [bind_eq_ok, pure_eq_ok, Prod.mk.injEq] at h
    obtain ⟨-, -, -, -, -, -, rfl, -⟩ := h
    exact .of_ledger rfl
  · cases h
  · next hissued =>
    rw [← hid] at hbinding ⊢
    have hfenced := fenced_of_effectiveRegistryBinding hissued hbinding
    have hadmits : s.Admits permit.permitId lease request.closedAtMs :=
      ⟨permit, hmem, rfl, hfenced⟩
    exact (closeIssued_steps (.of_load htask hpermit hattempt hissued) h).mono
      fun _ hmark => ⟨hmark, hadmits⟩

end Terminal

lemma finalizeSemanticCommit_steps {plan finalizedAtMs lease progress writeSet decision}
    (h : s.finalizeSemanticCommit plan finalizedAtMs lease progress writeSet = .ok (t, decision)) :
    Steps (fun mark => Terminates plan.permitId mark ∧
      s.Admits plan.permitId lease finalizedAtMs) s t := by
  simp only [finalizeSemanticCommit, bind_eq_ok] at h
  obtain ⟨-, -, h⟩ := h
  split at h
  · obtain rfl := eq_of_bind_pure h
    exact .of_ledger rfl
  · simp only [bind_eq_ok, pure_eq_ok, refuseIf_eq_ok, not_or, not_not, orRefuse_eq_ok,
      checkedSucc_eq_some, Prod.mk.injEq] at h
    obtain ⟨task, htask, permit, hpermit, attempt, hattempt, -, -, -, ⟨hholder, -⟩, -, -, -, -, _,
      hlease, -, hissued, -, -, -, -, -, -, -, -, -, hslots, commitSeq, ⟨-, rfl⟩, controlEpoch, -,
      ended, hwrite, rfl, -⟩ := h
    have hadmits := admits_of_load hpermit (fenced_of_validate hlease)
    have hwritten : Steps (Terminates permit.permitId) s _ :=
      writeTerminal_steps (.of_load htask hpermit hattempt hissued hholder)
        (settled_of_listSlots_eq_nil hslots) (by exact ⟨rfl, le_rfl⟩) rfl hwrite
    rw [(mem_of_loadPermitById hpermit).2.2] at hwritten
    exact hwritten.mono fun _ hmark => ⟨hmark, hadmits⟩

/-! ### Artifact commits -/

/-- A plan is used only with the issued permit, task and attempt it belongs to. -/
lemma loadArtifactContext_spec
    (h : s.loadArtifactContext taskId attemptId attemptGeneration permitId =
      .ok (task, permit, attempt)) : Holds s task permit attempt ∧ permit.permitId = permitId := by
  simp only [loadArtifactContext, bind_eq_ok, pure_eq_ok, refuseIf_eq_ok, not_or, not_not,
    Prod.mk.injEq] at h
  obtain ⟨task', htask, permit', hpermit, attempt', hattempt, -, -, -, ⟨hholder, -⟩, -, hissued,
    rfl, rfl, rfl⟩ := h
  exact ⟨.of_load htask hpermit hattempt hissued hholder, (mem_of_loadPermitById hpermit).2.2⟩

def MovesPlan (s : TaskStore) (planId : Id) (mark : Mark) : Prop :=
  ∃ plan ∈ s.artifactPlans, plan.planId = planId ∧ mark = .planMoved plan.permitId

lemma planArtifactCommit_steps
    (h : s.planArtifactCommit request = .ok (t, decision)) :
    Steps (· = .planMoved request.permitId) s t := by
  simp only [planArtifactCommit, bind_eq_ok] at h
  obtain ⟨canonical, -, h⟩ := h
  split at h
  · obtain rfl := eq_of_bind_pure h
    exact .of_ledger rfl
  · simp only [bind_eq_ok, pure_eq_ok, orRefuse_eq_ok, insertRow_eq_some, Prod.exists,
      Prod.mk.injEq] at h
    obtain ⟨-, -, task, permit, attempt, hcontext, -, -, -, -, -, -, root, -, plans,
      ⟨hfresh, rfl⟩, rfl, -⟩ := h
    obtain ⟨hholds, hid⟩ := loadArtifactContext_spec hcontext
    refine .single (.planned ?_ rfl rfl ⟨permit, hholds.mem, hid, hholds.issued⟩) rfl
    intro plan hplan
    exact not_or.mp (hfresh plan hplan)

lemma authorizeArtifactPublication_steps
    (h : s.authorizeArtifactPublication planId = .ok (t, decision)) :
    Steps (s.MovesPlan planId) s t := by
  simp only [authorizeArtifactPublication, bind_eq_ok] at h
  obtain ⟨plan, hplan, h⟩ := h
  obtain ⟨hmem, rfl⟩ := mem_of_loadPlan hplan
  split at h
  · cases h
    exact .of_ledger rfl
  · next hstate =>
    have hplanned := not_not.mp hstate
    simp only [updatePlanState, bind_eq_ok, pure_eq_ok, Prod.exists, Prod.mk.injEq] at h
    obtain ⟨task, permit, attempt, hcontext, -, -, -, -, -, -, -, -, moved, ⟨-, -, rfl⟩, rfl,
      -⟩ := h
    obtain ⟨hholds, hid⟩ := loadArtifactContext_spec hcontext
    exact .single (.authorized hmem hplanned ⟨permit, hholds.mem, hid, hholds.issued⟩)
      ⟨plan, hmem, rfl, rfl⟩

variable {plan : ArtifactCommitPlanRecord}

lemma permitId_of_validatePublicationReceipt
    (h : validatePublicationReceipt plan receipt = .ok u) : receipt.permitId = plan.permitId := by
  simp only [validatePublicationReceipt, bind_eq_ok, refuseIf_eq_ok, not_or, not_not] at h
  obtain ⟨-, ⟨-, hpermit, -⟩, -⟩ := h
  exact hpermit

lemma recordPublications_spec {receipts} (h : recordPublications plan receipts s = .ok t) :
    ∃ rows : List (Id × NestedArtifactPublicationReceipt),
      (∀ row ∈ rows, row.1 = plan.planId ∧ row.2.permitId = plan.permitId) ∧
      t = { s with publications := s.publications ++ rows } := by
  induction receipts generalizing s with
  | nil =>
    cases h
    exact ⟨[], by simp, by simp⟩
  | cons receipt rest ih =>
    simp only [recordPublications, bind_eq_ok] at h
    obtain ⟨recorded, hrecord, hrest⟩ := h
    obtain ⟨rows, hrows, rfl⟩ := ih hrest
    simp only [recordPublication, bind_eq_ok] at hrecord
    obtain ⟨_, hvalid, hrecord⟩ := hrecord
    split at hrecord
    · simp only [bind_eq_ok, pure_eq_ok] at hrecord
      obtain ⟨-, -, rfl⟩ := hrecord
      exact ⟨rows, hrows, rfl⟩
    · simp only [bind_eq_ok, pure_eq_ok] at hrecord
      obtain ⟨-, -, rfl⟩ := hrecord
      refine ⟨(plan.planId, receipt) :: rows, ?_, by simp⟩
      intro row hrow
      rcases List.mem_cons.mp hrow with rfl | hrow
      · exact ⟨rfl, permitId_of_validatePublicationReceipt hvalid⟩
      · exact hrows row hrow

lemma recordArtifactPublications_steps {receipts progress}
    (h : s.recordArtifactPublications planId receipts = .ok (t, progress)) :
    Steps (s.MovesPlan planId) s t := by
  simp only [recordArtifactPublications, updatePlanState, bind_eq_ok, pure_eq_ok, refuseIf_eq_ok,
    Prod.mk.injEq] at h
  obtain ⟨-, -, plan, hplan, -, hplanned, -, hfinalized, recorded, hrecord, moved, ⟨-, -, rfl⟩, rfl,
    -⟩ := h
  obtain ⟨hmem, rfl⟩ := mem_of_loadPlan hplan
  obtain ⟨rows, hrows, rfl⟩ := recordPublications_spec hrecord
  refine .single (.published hmem ?_ ?_ hrows) ⟨plan, hmem, rfl, rfl⟩
  · cases hstate : plan.state <;> simp_all
  · split
    · exact .inr rfl
    · exact .inl rfl

/-- A plan is committed once every expected publication is recorded. -/
lemma finalizeReadyPlan_steps
    (hmem : plan ∈ s.artifactPlans) (hready : plan.state = .ready)
    (hcount : (s.publications.filter fun row => row.1 = plan.planId).length =
      plan.expectations.length) (h : s.finalizeReadyPlan plan = .ok (t, receipt)) :
    Change s.ledger (.planCommitted plan.permitId plan.planId) t.ledger := by
  simp only [finalizeReadyPlan, bind_eq_ok, pure_eq_ok, refuseIf_eq_ok, not_not, orRefuse_eq_ok,
    checkedSucc_eq_some, Prod.exists, Prod.mk.injEq] at h
  obtain ⟨task, permit, attempt, hcontext, -, -, -, -, -, -, -, -, -, hslots, commitSeq, ⟨-, rfl⟩,
    controlEpoch, -, ended, hwrite, committed, hfinal, rfl, -⟩ := h
  obtain ⟨hholds, hid⟩ := loadArtifactContext_spec hcontext
  have hsettled := settled_of_listSlots_eq_nil (hid ▸ hslots)
  have htermination : Termination s.ledger permit attempt
      (sequenceReceipt task permit attempt (task.head.commitSeq + 1)) :=
    termination_of_writeTerminal hholds hsettled (by exact ⟨rfl, le_rfl⟩) hwrite
  rw [ledger_of_finalizePlan hfinal, (writeTerminal_spec hwrite).2, hholds.taskId, ← hid]
  exact .terminated htermination rfl (.committed hmem hid.symm hready rfl hcount)

lemma length_loadPublications : (s.loadPublications planId).length =
      (s.publications.filter fun row => row.1 = planId).length := by
  rw [loadPublications, List.length_insertionSort, List.length_map]

lemma length_of_validateProgress {publications u}
    (h : validateProgress plan publications = .ok u) (hready : plan.state = .ready) :
    publications.length = plan.expectations.length := by
  simp only [validateProgress, bind_eq_ok, refuseIf_eq_ok, not_not] at h
  obtain ⟨-, -, hstate⟩ := h
  rw [hready] at hstate
  simp only [expectedPlanState, hready, reduceCtorEq, if_false] at hstate
  split at hstate
  · cases hstate
  · split at hstate
    · next hlength => exact hlength
    · cases hstate

lemma finalizeArtifactCommit_steps
    (h : s.finalizeArtifactCommit planId = .ok (t, decision)) :
    Steps (fun mark => ∃ plan ∈ s.artifactPlans, plan.planId = planId ∧
      mark = .planCommitted plan.permitId planId) s t := by
  simp only [finalizeArtifactCommit, bind_eq_ok] at h
  obtain ⟨plan, hplan, _, hprogress, h⟩ := h
  obtain ⟨hmem, rfl⟩ := mem_of_loadPlan hplan
  split at h
  · obtain rfl := eq_of_bind_bind_pure h
    exact .of_ledger rfl
  · simp only [bind_eq_ok, pure_eq_ok, refuseIf_eq_ok, not_not, Prod.exists, Prod.mk.injEq] at h
    obtain ⟨-, hready, committed, receipt, hcommit, rfl, -⟩ := h
    have hcount := length_of_validateProgress hprogress hready
    rw [length_loadPublications] at hcount
    exact .single (finalizeReadyPlan_steps hmem hready hcount hcommit) ⟨plan, hmem, rfl, rfl⟩

/-- What the drive may be remembered for: it ends issued permits without a lease. -/
def Reclaims (s : TaskStore) (mark : Mark) : Prop :=
  ∃ permit ∈ s.permits, permit.state = .issued ∧ permit.authorityLeaseBinding = none ∧
    Terminates permit.permitId mark

variable {evidence : ReclaimEvidence}

lemma evictPermit_steps {executedAtMs eviction} (hsound : s.ledger.Sound)
    (h : s.evictPermit permit executedAtMs evidence = .ok (t, eviction)) :
    Steps (Terminates permit.permitId) s t := by
  simp only [evictPermit, bind_eq_ok, Prod.exists] at h
  obtain ⟨-, -, closed, decision, hclose, h⟩ := h
  have hsteps := (closePermit_steps hsound hclose).mono fun _ => And.left
  split at h
  · cases h
    exact hsteps
  · cases h
    exact hsteps

/-- The reclaim evicts issued permits one by one until the threshold is met. -/
lemma evictPermits_steps
    (hsound : s.ledger.Sound)
    (hcandidates : ∀ permit ∈ candidates, permit ∈ start.permits ∧ permit.state = .issued)
    (h : evictPermits executedAtMs evidence preActive threshold candidates evictions s =
      (t, outcome)) : Steps (Reclaims start) s t := by
  induction candidates generalizing s evictions with
  | nil =>
    cases h
    exact .of_ledger rfl
  | cons permit rest ih =>
    have hrest : ∀ other ∈ rest, other ∈ start.permits ∧ other.state = .issued :=
      fun other hother => hcandidates other (List.mem_cons_of_mem _ hother)
    unfold evictPermits at h
    split at h
    · cases h
      exact .of_ledger rfl
    split at h
    · exact ih hsound hrest h
    · next hevictable =>
      split at h
      · cases h
        exact .of_ledger rfl
      · next closed eviction hevict =>
        obtain ⟨hmem, hissued⟩ := hcandidates permit List.mem_cons_self
        have hunleased := (not_not.mp hevictable).1
        have hsteps := evictPermit_steps hsound hevict
        exact (hsteps.mono fun _ hmark => ⟨permit, hmem, hissued, hunleased, hmark⟩).trans
          (ih (hsteps.sound hsound) hrest h)

lemma driveWorkingSetReclaim_steps (hsound : s.ledger.Sound) :
    Steps (Reclaims s) s (s.driveWorkingSetReclaim request evidence).1 := by
  unfold driveWorkingSetReclaim
  split
  · exact .of_ledger rfl
  split
  · exact .of_ledger rfl
  · refine evictPermits_steps hsound ?_ rfl
    intro permit hpermit
    split at hpermit
    · simpa [listIssuedPermitsInEvictionOrder, List.mem_insertionSort] using hpermit
    · cases hpermit

end TaskStore

end Nlos.Task
