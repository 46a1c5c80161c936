import Nlos.Task.Dispatch

/-!
# Terminal receipts tell the truth

A commit with satisfaction proofs is stored only when every slot of the permit has ended and every
required one is backed by a matching proof; a receipt that reports effects raises the retry fence by
one.
-/

namespace Nlos.Task

open Lib

variable {slots : List SlotRecord} {receipt : TaskReceiptRecord}

lemma Changes.receipts_of_touched (h : Changes l marks l')
    (hmarks : ∀ mark ∈ marks, mark = .touched permitId) : l'.receipts = l.receipts := by
  induction h with
  | refl => rfl
  | snoc _ hlast ih =>
    rw [← ih fun mark hmark => hmarks mark (List.mem_append_left _ hmark)]
    have hmark := hmarks _ (List.mem_append_right _ List.mem_cons_self)
    cases hlast with
    | receipted => cases hmark
    | terminated _ _ hclosing => cases hclosing <;> cases hmark
    | _ => rfl

namespace TaskStore

/-- The proof matches the way the required slot ended. -/
def Satisfies (s : TaskStore) (snapshotDigest : Digest) (slot : SlotRecord) :
    RequiredSatisfactionProof → Prop
  | .effectClosedSuccess digest => slot.state = .effectClosed ∧
      ∃ receipt ∈ s.effectReceipts, slot.effectReceiptId = some receipt.receiptId ∧
        receipt.kind = .effectClosed ∧ receipt.effectSlotId = slot.effectSlotId ∧
        receipt.logicalEffectId = slot.logicalEffectId ∧
        digest = expectedSuccessAssertionDigest slot receipt
  | .conditionNotApplicable digest => slot.state = .noEffect ∧
      ∃ receipt ∈ s.effectReceipts, slot.effectReceiptId = some receipt.receiptId ∧
        receipt.noEffectReason = some .conditionNotApplicable ∧
        ∃ condition, slot.requiredConditionDigest = some condition ∧
          digest = expectedConditionFalseProof snapshotDigest condition

variable {s t : TaskStore} {snapshotDigest : Digest}

lemma mem_of_loadEffectReceipt {receiptId receipt}
    (h : s.loadEffectReceipt receiptId = .ok receipt) :
    receipt ∈ s.effectReceipts ∧ receipt.receiptId = receiptId := by
  obtain ⟨hmem, hid⟩ := mem_of_find? (orRefuse_eq_ok.mp h)
  exact ⟨hmem, of_decide_eq_true hid⟩

lemma satisfies_of_validateSlotProof
    (h : s.validateSlotProof snapshotDigest slot proof = .ok u) :
    s.Satisfies snapshotDigest slot proof := by
  unfold validateSlotProof at h
  split at h
  · next digest hclosed =>
    simp only [validateEffectClosedSuccess, bind_eq_ok, orRefuse_eq_ok, refuseIf_eq_ok,
      not_or, not_not] at h
    obtain ⟨receiptId, hid, receipt, hload, ⟨hkind, -, -, -, hslotId, -, heffect⟩, hdigest⟩ := h
    obtain ⟨hmem, rfl⟩ := mem_of_loadEffectReceipt hload
    exact ⟨hclosed, receipt, hmem, hid, hkind, hslotId, heffect, hdigest⟩
  · next digest hnone =>
    simp only [validateConditionNotApplicable, bind_eq_ok, orRefuse_eq_ok, refuseIf_eq_ok,
      ne_eq, not_not] at h
    obtain ⟨receiptId, hid, receipt, hload, -, hreason, condition, hcondition, hdigest⟩ := h
    obtain ⟨hmem, rfl⟩ := mem_of_loadEffectReceipt hload
    exact ⟨hnone, receipt, hmem, hid, hreason, condition, hcondition, hdigest⟩
  · cases h

lemma satisfies_of_evaluateSlots
    (h : s.evaluateSlots snapshotDigest slots proofs = .ok (evaluation, unused))
    (hall : evaluation.unsatisfied = []) :
    ∀ slot ∈ slots, ∃ satisfaction ∈ proofs, satisfaction.effectSeq = slot.effectSeq ∧
      s.Satisfies snapshotDigest slot satisfaction.proof := by
  induction slots generalizing proofs evaluation with
  | nil => simp
  | cons first rest ih =>
    simp only [evaluateSlots, bind_eq_ok, pure_eq_ok, Prod.exists, Prod.mk.injEq] at h
    obtain ⟨satisfied, hfirst, evaluation', unused', hrest, rfl, rfl⟩ := h
    have hsatisfied : satisfied = true ∧ evaluation'.unsatisfied = [] := by
      cases satisfied with
      | true => exact ⟨rfl, hall⟩
      | false => simp [RequiredEvaluation.add] at hall
    intro slot hslot
    rcases List.mem_cons.mp hslot with rfl | hslot
    · cases hfound : proofs.find? fun p => p.effectSeq = slot.effectSeq with
      | none =>
        rw [hfound, hsatisfied.1] at hfirst
        cases hfirst
      | some satisfaction =>
        obtain ⟨hmem, hseq⟩ := mem_of_find? hfound
        rw [hfound] at hfirst
        simp only [Option.map_some, evaluateSlot, bind_eq_ok] at hfirst
        obtain ⟨_, hproof, -⟩ := hfirst
        exact ⟨satisfaction, hmem, of_decide_eq_true hseq, satisfies_of_validateSlotProof hproof⟩
    · obtain ⟨satisfaction, hmem, hrestProof⟩ := ih hrest hsatisfied.2 slot hslot
      exact ⟨satisfaction, (List.mem_filter.mp hmem).1, hrestProof⟩

lemma unsatisfied_of_outcome_committed
    (h : s.outcomeAndEntries task slots evaluation = .ok (t, .committed, newFence)) :
    evaluation.unsatisfied = [] := by
  unfold outcomeAndEntries at h
  split at h
  · assumption
  · simp only [bind_eq_ok, pure_eq_ok, Prod.mk.injEq] at h
    obtain ⟨-, -, fence, -, noted, -, -, houtcome, -⟩ := h
    split at houtcome
    · cases houtcome
    · cases houtcome

/-- What a commit with proofs rests on: every slot of the permit has ended, and the required ones
have matching proofs bound to the snapshot of the attempt. -/
structure Backed (s : TaskStore) (permit : PermitRecord) (snapshotDigest : Digest)
    (satisfactions : List RequiredSatisfaction) : Prop where
  settled : ∀ slot ∈ s.slots, slot.permitId = permit.permitId →
    slot.state = .effectClosed ∨ slot.state = .noEffect ∨ slot.state = .confirmedNoEffect
  required : ∀ slot ∈ s.slots, slot.permitId = permit.permitId → slot.required = true →
    ∃ satisfaction ∈ satisfactions, satisfaction.effectSeq = slot.effectSeq ∧
      s.Satisfies snapshotDigest slot satisfaction.proof

lemma backed_of_finalizeRequired
    (h : s.finalizeRequired task permit attempt binding request = .ok (t, receipt)) :
    t.receipts = s.receipts ++ [receipt] ∧ receipt.permitId = some permit.permitId ∧
      (receipt.outcome = .committed →
        s.Backed permit attempt.snapshot.snapshotDigest request.requiredSatisfaction) := by
  simp only [finalizeRequired, writeCommitReceipt, evaluateRequired, bind_eq_ok, pure_eq_ok,
    refuseIf_eq_ok, Prod.exists, Prod.mk.injEq] at h
  obtain ⟨-, hblocking, evaluation, ⟨-, -, evaluation', unused, heval, hunused⟩, noted, outcome,
    newFence, hentries, commitSeq, -, controlEpoch, -, final, hwrite, rfl, rfl⟩ := h
  obtain ⟨⟨entries, -, hnoted⟩, -⟩ := outcomeAndEntries_spec hentries
  have hledger := (writeTerminal_spec hwrite).2
  rw [hnoted] at hledger
  refine ⟨congrArg Ledger.receipts hledger, rfl, ?_⟩
  rintro ⟨⟩
  have hevaluation : evaluation' = evaluation := by
    split at hunused
    · cases hunused
    · exact Except.ok.inj hunused
  subst hevaluation
  refine ⟨?_, ?_⟩
  · intro slot hslot hid
    have hsettled := settled_of_countBlocking hblocking hslot hid
    cases hstate : slot.state <;> simp_all [SlotState.blocksFinalization]
  · intro slot hslot hid hrequired
    refine satisfies_of_evaluateSlots heval (unsatisfied_of_outcome_committed hentries) slot ?_
    exact List.mem_filter.mpr ⟨mem_listSlots.mpr ⟨hslot, hid⟩, hrequired⟩

lemma receipts_of_quarantineDecision
    (h : s.quarantineDecision task permit digest bump = .ok (t, record)) :
    t.receipts = s.receipts := by
  obtain ⟨marks, hchanges, hmarks⟩ := quarantineDecision_steps h
  exact hchanges.receipts_of_touched hmarks

/-- A receipt that a commit with proofs adds to the store is about the permit it was asked for. -/
lemma backed_of_finalizeCommitV3 {request lease evidence decision}
    (h : s.finalizeCommitV3 request lease evidence = .ok (t, decision))
    (hnew : receipt ∈ t.receipts) (hold : receipt ∉ s.receipts) :
    ∃ permit ∈ s.permits, ∃ attempt ∈ s.attempts, receipt.permitId = some permit.permitId ∧
      attempt.taskId = permit.taskId ∧ attempt.attemptId = permit.attemptId ∧
      (receipt.outcome = .committed →
        s.Backed permit attempt.snapshot.snapshotDigest request.requiredSatisfaction) := by
  simp only [finalizeCommitV3, finalizeImpl, bind_eq_ok] at h
  obtain ⟨task, -, permit, hpermit, attempt, hattempt, binding, -, -, -, h⟩ := h
  obtain ⟨hmem, htask, -⟩ := mem_of_loadPermitById hpermit
  obtain ⟨hattemptMem, hattemptTask, hattemptId⟩ := mem_of_loadAttempt hattempt
  split at h
  · simp only [bind_eq_ok, pure_eq_ok, Prod.exists, Prod.mk.injEq] at h
    obtain ⟨held, record, hquarantine, rfl, -⟩ := h
    exact absurd (receipts_of_quarantineDecision hquarantine ▸ hnew) hold
  · simp only [bind_eq_ok, pure_eq_ok, Prod.mk.injEq] at h
    obtain ⟨-, -, -, -, rfl, -⟩ := h
    exact absurd hnew hold
  · cases h
  · simp only [finalizeIssued, bind_eq_ok, refuseIf_eq_ok, Bool.false_eq_true, if_false] at h
    obtain ⟨-, hholder, -, -, -, -, -, -, h⟩ := h
    split at h
    · simp only [bind_eq_ok, pure_eq_ok, Prod.exists, Prod.mk.injEq] at h
      obtain ⟨held, record, hquarantine, rfl, -⟩ := h
      exact absurd (receipts_of_quarantineDecision hquarantine ▸ hnew) hold
    · simp only [bind_eq_ok, pure_eq_ok, Prod.exists, Prod.mk.injEq] at h
      obtain ⟨ended, written, hrequired, rfl, -⟩ := h
      obtain ⟨hreceipts, hid, hbacked⟩ := backed_of_finalizeRequired hrequired
      rw [hreceipts] at hnew
      obtain rfl := List.mem_singleton.mp ((List.mem_append.mp hnew).resolve_left hold)
      simp only [ne_eq, not_or, not_not] at hholder
      exact ⟨permit, hmem, attempt, hattemptMem, hid, hattemptTask.trans htask.symm,
        hattemptId.trans hholder.1.symm, hbacked⟩

end TaskStore

variable {profile : ScaleProfile} {authorityId : Id}
  {h : List (Event TaskStore Operation Answer)} {s : TaskStore}

/-- Every stored receipt was added by a call of the run. -/
lemma exists_writer (hrun : AuthorityRun profile authorityId h s)
    (hreceipt : receipt ∈ s.receipts) :
    ∃ e ∈ h, receipt ∉ e.pre.receipts ∧ receipt ∈ (e.pre.call e.input).1.receipts := by
  induction hrun with
  | refl => cases hreceipt
  | @snoc h s t operation answer _ hstep ih =>
    by_cases hold : receipt ∈ s.receipts
    · obtain ⟨e, he, hwrites⟩ := ih hold
      exact ⟨e, List.mem_append_left _ he, hwrites⟩
    · refine ⟨_, List.mem_append_right _ List.mem_cons_self, hold, ?_⟩
      rwa [show (s.call operation).1 = t from congrArg Prod.fst (Except.ok.inj hstep)]

lemma confirmed_of_ended (hrun : AuthorityRun profile authorityId h s)
    (hended : ∀ slot ∈ s.slots, slot.permitId = permitId →
      slot.state = .noEffect ∨ slot.state = .confirmedNoEffect)
    (hsplit : h = h₁ ++ e :: h₂) (hconsumes : Consumes e slot)
    (hid : slot.permitId = permitId) : ∃ e' ∈ h₂, ConfirmsNoEffect e' slot.key := by
  subst hsplit
  obtain ⟨hrun₁, t, hstep, hrest⟩ := Run.split hrun
  have hsound : t.ledger.Sound := (sound_of_run hrun₁).of_run (.single hstep)
  obtain ⟨⟨hslot, hdispatched⟩, -⟩ := hconsumes.spec hstep
  obtain ⟨slot', hslot', hkey, -, -, hconsumed, hconfirmed⟩ :=
    exists_follower_of_run hrest hsound hslot hdispatched
  refine hconfirmed ?_
  rcases hended slot' hslot' ((permitId_eq_of_key hkey).trans hid) with hstate | hstate
  · rw [hstate] at hconsumed
    cases hconsumed
  · exact hstate

lemma Truthful.raised (h : Truthful slots receipt permitId)
    (houtcome : receipt.outcome = .partialEffect ∨ receipt.outcome = .failedAfterEffect) :
    receipt.new.retryFenceEpoch = receipt.prior.retryFenceEpoch + 1 ∧
      ∃ slot ∈ slots, slot.permitId = permitId ∧ slot.state = .effectClosed := by
  rcases houtcome with houtcome | houtcome
  · simp only [Truthful, houtcome] at h
    exact h.2
  · simp only [Truthful, houtcome] at h
    exact h.2

lemma Truthful.ended (h : Truthful slots receipt permitId)
    (houtcome : receipt.outcome = .failedBeforeEffect ∨ receipt.outcome = .cancelledBeforeEffect) :
    receipt.new = receipt.prior ∧ ∀ slot ∈ slots, slot.permitId = permitId →
      slot.state = .noEffect ∨ slot.state = .confirmedNoEffect := by
  rcases houtcome with houtcome | houtcome
  · simpa only [Truthful, houtcome] using h
  · simpa only [Truthful, houtcome] using h

/-- Every stored receipt was added by a call; a commit with proofs among them is backed by the
slots. Receipts after an effect show one and raise the fence by one; receipts before any effect
leave the head, and every dispatch of their permit was confirmed to have had no effect. -/
theorem receipts_truthful (hrun : AuthorityRun profile authorityId h s) :
    (∀ receipt ∈ s.receipts, ∃ e ∈ h, receipt ∉ e.pre.receipts ∧
      receipt ∈ (e.pre.call e.input).1.receipts ∧
      ∀ request lease evidence, e.input = .finalizeCommitV3 request lease evidence →
        receipt.outcome = .committed → ∃ permit ∈ e.pre.permits, ∃ attempt ∈ e.pre.attempts,
          receipt.permitId = some permit.permitId ∧ attempt.taskId = permit.taskId ∧
          attempt.attemptId = permit.attemptId ∧
          e.pre.Backed permit attempt.snapshot.snapshotDigest request.requiredSatisfaction) ∧
    (∀ receipt ∈ s.receipts,
      receipt.outcome = .partialEffect ∨ receipt.outcome = .failedAfterEffect →
      receipt.new.retryFenceEpoch = receipt.prior.retryFenceEpoch + 1 ∧
      ∃ slot ∈ s.slots, receipt.permitId = some slot.permitId ∧ slot.state = .effectClosed) ∧
    ∀ receipt ∈ s.receipts, ∀ permitId, receipt.permitId = some permitId →
      receipt.outcome = .failedBeforeEffect ∨ receipt.outcome = .cancelledBeforeEffect →
      (∀ slot ∈ s.slots, slot.permitId = permitId → slot.state ≠ .effectClosed) ∧
      (∀ h₁ e h₂ slot, h = h₁ ++ e :: h₂ → Consumes e slot → slot.permitId = permitId →
        ∃ e' ∈ h₂, ConfirmsNoEffect e' slot.key) ∧ receipt.new = receipt.prior := by
  have hsound := sound_of_run hrun
  refine ⟨?_, ?_, ?_⟩
  · intro receipt hreceipt
    obtain ⟨e, he, hold, hnew⟩ := exists_writer hrun hreceipt
    refine ⟨e, he, hold, hnew, fun request lease evidence hinput hcommitted => ?_⟩
    have hcall : e.pre.call e.input = e.pre.transact
        (e.pre.finalizeCommitV3 request lease evidence) .finalize := by rw [hinput]; rfl
    rw [hcall] at hnew
    cases hfinal : e.pre.finalizeCommitV3 request lease evidence with
    | error =>
      rw [hfinal] at hnew
      exact absurd hnew hold
    | ok result =>
      rw [hfinal] at hnew
      obtain ⟨permit, hpermit, attempt, hattempt, hid, htask, hattemptId, hbacked⟩ :=
        TaskStore.backed_of_finalizeCommitV3 hfinal hnew hold
      exact ⟨permit, hpermit, attempt, hattempt, hid, htask, hattemptId, hbacked hcommitted⟩
  · intro receipt hreceipt houtcome
    cases hid : receipt.permitId with
    | none =>
      rw [(hsound.unpermitted receipt hreceipt hid).1] at houtcome
      rcases houtcome with houtcome | houtcome
      · cases houtcome
      · cases houtcome
    | some permitId =>
      have htruthful := hsound.truthful receipt hreceipt permitId hid
      obtain ⟨hfence, slot, hslot, rfl, hclosed⟩ := htruthful.raised houtcome
      exact ⟨hfence, slot, hslot, rfl, hclosed⟩
  · intro receipt hreceipt permitId hid houtcome
    obtain ⟨hhead, hended⟩ := (hsound.truthful receipt hreceipt permitId hid).ended houtcome
    refine ⟨?_, ?_, hhead⟩
    · intro slot hslot hpermit hclosed
      rcases hended slot hslot hpermit with hstate | hstate
      · rw [hclosed] at hstate
        cases hstate
      · rw [hclosed] at hstate
        cases hstate
    · intro h₁ e h₂ slot hsplit hconsumes hpermit
      exact confirmed_of_ended hrun hended hsplit hconsumes hpermit

namespace Sample

def closure : EffectReceipt where
  receiptId := deriveEffectReceiptId "llmos/task-effect-closed-receipt/v1"
    (deriveEffectSlotId permitId 0) 3
  taskId := 1
  permitId := permitId
  effectSlotId := deriveEffectSlotId permitId 0
  effectSeq := 0
  logicalEffectId := effect.descriptor.logicalEffectId
  kind := .effectClosed
  priorSlotState := .dispatched
  noEffectReason := none
  proofDigest := 9

def closing : List Operation :=
  dispatching ++ [.recordEffectOutcome ⟨1, 3, 1, permitId, 1, 0, .closed 9, 3⟩ none]

def proofs : List RequiredSatisfaction :=
  [⟨0, .effectClosedSuccess (expectedSuccessAssertionDigest (effect.slot permitId 1 0) closure)⟩]

def finalize (proofs : List RequiredSatisfaction) : Operation :=
  .finalizeCommitV3 ⟨⟨1, 3, 1, permitId, 0, 0, 4⟩, proofs, 0⟩ none evidence

def abandoning : List Operation :=
  registering ++ [.requestCommitPermit (permit [effect] 0) ⟨.ok (), .ok ()⟩ none,
    .recordNoEffect ⟨1, 3, 1, permitId, 1, 0, .notSelected, none, 2⟩ none, closePermit none]

end Sample

/-- The closed effect of a permit is committed with its proof, or reported without one; another
permit is closed before its effect. -/
theorem receipts_truthful_finalizing :
    (∃ h s, AuthorityRun Sample.profile 0 h s ∧ h.map Event.input = Sample.closing ∧
      (∃ receipt ∈ (s.call (Sample.finalize Sample.proofs)).1.receipts,
        receipt.outcome = .committed ∧ ∃ permit ∈ s.permits, ∃ attempt ∈ s.attempts,
          receipt.permitId = some permit.permitId ∧
          s.Backed permit attempt.snapshot.snapshotDigest Sample.proofs) ∧
      ∃ receipt ∈ (s.call (Sample.finalize [])).1.receipts,
        receipt.outcome = .failedAfterEffect ∧
        receipt.new.retryFenceEpoch = receipt.prior.retryFenceEpoch + 1 ∧
        ∃ slot ∈ (s.call (Sample.finalize [])).1.slots,
          receipt.permitId = some slot.permitId ∧ slot.state = .effectClosed) ∧
    ∃ h s, AuthorityRun Sample.profile 0 h s ∧ h.map Event.input = Sample.abandoning ∧
      ∃ receipt ∈ s.receipts, receipt.outcome = .failedBeforeEffect ∧
        receipt.permitId = some Sample.permitId ∧
        (∀ slot ∈ s.slots, slot.permitId = Sample.permitId → slot.state ≠ .effectClosed) ∧
        receipt.new = receipt.prior := by
  constructor
  · obtain ⟨h, s, hrun, hinputs, hcheck⟩ : ∃ h s, AuthorityRun Sample.profile 0 h s ∧
        h.map Event.input = Sample.closing ∧
        decide ((∀ e ∈ h, (e.pre.call e.input).1.receipts = []) ∧
          (∃ r ∈ (s.call (Sample.finalize Sample.proofs)).1.receipts, r.outcome = .committed) ∧
          ∃ r ∈ (s.call (Sample.finalize [])).1.receipts, r.outcome = .failedAfterEffect) = true :=
      exists_run_of_runCheck (f := TaskStore.step) (s := .empty Sample.profile 0)
        (by decide +kernel)
    obtain ⟨hnone, ⟨receipt, hreceipt, hcommitted⟩, failed, hfailed, houtcome⟩ :=
      of_decide_eq_true hcheck
    have hnext (operation : Operation) : AuthorityRun Sample.profile 0
        (h ++ [⟨s, operation, (s.call operation).2⟩]) (s.call operation).1 := hrun.snoc rfl
    refine ⟨h, s, hrun, hinputs, ⟨receipt, hreceipt, hcommitted, ?_⟩, failed, hfailed, houtcome,
      (receipts_truthful (hnext _)).2.1 failed hfailed (.inr houtcome)⟩
    obtain ⟨e, he, -, hnew, hbacked⟩ := (receipts_truthful (hnext _)).1 receipt hreceipt
    rcases List.mem_append.mp he with he | he
    · rw [hnone e he] at hnew
      cases hnew
    · obtain rfl := List.mem_singleton.mp he
      obtain ⟨permit, hpermit, attempt, hattempt, hid, -, -, hrests⟩ := hbacked _ _ _ rfl hcommitted
      exact ⟨permit, hpermit, attempt, hattempt, hid, hrests⟩
  · obtain ⟨h, s, hrun, hinputs, hcheck⟩ : ∃ h s, AuthorityRun Sample.profile 0 h s ∧
        h.map Event.input = Sample.abandoning ∧ decide (∃ r ∈ s.receipts,
          r.outcome = .failedBeforeEffect ∧ r.permitId = some Sample.permitId) = true :=
      exists_run_of_runCheck (f := TaskStore.step) (s := .empty Sample.profile 0)
        (by decide +kernel)
    obtain ⟨receipt, hreceipt, houtcome, hid⟩ := of_decide_eq_true hcheck
    obtain ⟨hslots, -, hhead⟩ :=
      (receipts_truthful hrun).2.2 receipt hreceipt _ hid (.inl houtcome)
    exact ⟨h, s, hrun, hinputs, receipt, hreceipt, houtcome, hid, hslots, hhead⟩

end Nlos.Task
