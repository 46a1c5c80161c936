import Nlos.Task.Writes

/-!
# Registration, permits and cancellation as ledger changes

The calls that open tasks and attempts, issue permits and close attempts, each as the changes it
makes to the ledger.
-/

namespace Nlos.Task

open Lib List

variable {taskId : Id} {task : TaskRecord} {attempt : AttemptRecord} {cancelEpoch : ℕ}
  {planned : List PlannedEffect} {lease : Option AuthorityLeaseRecord} {decision : PermitDecision}
  {request : PermitRequest} {evidence : PermitEvidence} {expected : ParticipantRegistryBinding}
  {assignment : Tx Unit}

def Steps (allowed : Mark → Prop) (s t : TaskStore) : Prop :=
  ∃ marks, Changes s.ledger marks t.ledger ∧ ∀ mark ∈ marks, allowed mark

namespace Steps

variable {allowed allowed' : Mark → Prop} {s t u : TaskStore}

lemma of_ledger (h : t.ledger = s.ledger) : Steps allowed s t :=
  ⟨[], h ▸ .refl, by simp⟩

lemma single (h : Change s.ledger m t.ledger) (hmark : allowed m) : Steps allowed s t :=
  ⟨[m], .single h, by simpa using hmark⟩

lemma trans (h : Steps allowed s t) (h' : Steps allowed t u) : Steps allowed s u := by
  obtain ⟨marks, hchanges, hmarks⟩ := h
  obtain ⟨marks', hchanges', hmarks'⟩ := h'
  refine ⟨marks ++ marks', hchanges.trans hchanges', ?_⟩
  intro mark hmark
  rcases mem_append.mp hmark with hmark | hmark
  · exact hmarks mark hmark
  · exact hmarks' mark hmark

lemma mono (h : Steps allowed s t) (himp : ∀ mark, allowed mark → allowed' mark) :
    Steps allowed' s t := by
  obtain ⟨marks, hchanges, hmarks⟩ := h
  exact ⟨marks, hchanges, fun mark hmark => himp mark (hmarks mark hmark)⟩

/-- What every allowed change preserves, the steps of a call preserve. -/
lemma invariant {P : Ledger → Prop}
    (hstep : ∀ {a b m}, allowed m → P a → Change a m b → P b) (h : Steps allowed s t)
    (hs : P s.ledger) : P t.ledger := by
  obtain ⟨marks, hchanges, hmarks⟩ := h
  generalize s.ledger = l, t.ledger = l' at hchanges hs ⊢
  induction hchanges with
  | refl => exact hs
  | snoc _ hlast ih =>
    refine hstep (hmarks _ (mem_append_right _ (mem_singleton_self _))) (ih ?_) hlast
    intro mark hmark
    exact hmarks mark (mem_append_left _ hmark)

end Steps

/-- Nothing the ledger remembers by a mark has happened. -/
def Quiet (mark : Mark) : Prop := mark = .quiet

namespace TaskStore

variable {s t : TaskStore}

lemma registerTask_steps {spec decision}
    (h : s.registerTask spec = .ok (t, decision)) : Steps Quiet s t := by
  unfold registerTask at h
  split at h
  · obtain rfl := eq_of_bind_bind_pure h
    exact .of_ledger rfl
  · next hnone =>
    simp only [bind_eq_ok, pure_eq_ok, Prod.exists, Prod.mk.injEq] at h
    obtain ⟨-, -, s', registry, hinit, rfl, -⟩ := h
    refine .single (m := .quiet) ?_ rfl
    rw [ledger_of_initializeRegistry hinit]
    have hfresh : ∀ row ∈ s.ledger.heads, row.1 ≠ spec.taskId := by
      intro row hrow
      obtain ⟨task, htask, rfl⟩ := mem_map.mp hrow
      simpa using find?_eq_none.mp hnone task htask
    have hchange := Change.registered hfresh
    simpa [ledger] using hchange

variable {spec : AttemptSpec}

lemma entered_of_loadTask (htask : s.loadTask spec.taskId = .ok task)
    (hfresh : ¬ (s.loadAttemptGlobal spec.attemptId).isSome) (hstate : ¬ task.state = .cancelled)
    (snapshotReceiptId : Option Id) : Change s.ledger .quiet { s.ledger with
      attempts := s.ledger.attempts ++ [spec.record snapshotReceiptId] } := by
  have hactive : task.state = .active := by
    cases h : task.state with
    | active => rfl
    | cancelled => exact absurd h hstate
  have hfence := fence_of_loadTask htask
  rw [hactive] at hfence
  refine .entered ?_ rfl hfence
  intro a ha
  have hnone := Option.not_isSome_iff_eq_none.mp hfresh
  have hne := find?_eq_none.mp hnone a ha
  simp only [decide_eq_true_eq] at hne
  exact hne

lemma registerAttempt_steps {snapshotReceiptId snapshotCheck decision}
    (h : s.registerAttempt spec snapshotReceiptId snapshotCheck = .ok (t, decision)) :
    Steps Quiet s t := by
  simp only [registerAttempt, bind_eq_ok] at h
  obtain ⟨task, htask, h⟩ := h
  split at h
  · obtain rfl := eq_of_bind_pure h
    exact .of_ledger rfl
  · simp only [bind_eq_ok, pure_eq_ok, refuseIf_eq_ok, Prod.mk.injEq] at h
    obtain ⟨-, hfresh, -, hstate, -, -, s', hsnapshot, rfl, -⟩ := h
    refine .single (m := .quiet) ?_ rfl
    have hledger := ledger_of_insertSnapshotIfAbsent hsnapshot
    have hentered := entered_of_loadTask htask hfresh hstate snapshotReceiptId
    rw [← hledger] at hentered ⊢
    exact hentered

lemma ledger_of_sealTaskWriteSet
    (h : s.sealTaskWriteSet record = .ok (t, stored)) : t.ledger = s.ledger := by
  simp only [sealTaskWriteSet, bind_eq_ok, pure_eq_ok, Prod.mk.injEq] at h
  obtain ⟨-, -, rfl, -⟩ := h
  rfl

variable {receiptId permitId groupId : Id}

/-- An open attempt ends with a closure receipt that keeps the head. -/
lemma closeAttempt_spec (hhead : (task.taskId, task.head) ∈ s.ledger.heads)
    (hopen : attempt.state.isOpenCandidate = true)
    (h : s.closeAttempt task cancelEpoch attempt = .ok (t, receiptId)) :
    Closure s.ledger attempt (closureReceipt task attempt receiptId) ∧ t.ledger = { s.ledger with
          attempts := moveAttempt attempt .cancelled (some receiptId) s.ledger.attempts
          receipts := s.ledger.receipts ++ [closureReceipt task attempt receiptId] } := by
  simp only [closeAttempt, bind_eq_ok, pure_eq_ok, Prod.mk.injEq] at h
  obtain ⟨s', hinsert, t', hstate, rfl, hid⟩ := h
  rw [hid] at hinsert hstate
  obtain ⟨hfresh, rfl⟩ := insertReceipt_eq_ok hinsert
  obtain ⟨hfound, hledger⟩ := ledger_of_setAttemptState hstate
  exact ⟨⟨hopen, hfound, hfresh, rfl, rfl, rfl, rfl, hhead⟩, hledger⟩

lemma closeAttempt_steps (hhead : (task.taskId, task.head) ∈ s.ledger.heads)
    (hopen : attempt.state.isOpenCandidate = true)
    (h : s.closeAttempt task cancelEpoch attempt = .ok (t, receiptId)) :
    Steps Quiet s t ∧ t.ledger.heads = s.ledger.heads := by
  obtain ⟨hclosure, hledger⟩ := closeAttempt_spec hhead hopen h
  refine ⟨.single (m := .quiet) ?_ rfl, by rw [hledger]⟩
  rw [hledger]
  exact .receipted hclosure

/-- Closing several attempts closes them one after the other. -/
lemma closeAttempts_steps {attempts closed} (hhead : (task.taskId, task.head) ∈ s.ledger.heads)
    (hopen : ∀ attempt ∈ attempts, attempt.state.isOpenCandidate = true)
    (h : closeAttempts task cancelEpoch attempts s = .ok (t, closed)) : Steps Quiet s t := by
  induction attempts generalizing s closed with
  | nil =>
    cases h
    exact .of_ledger rfl
  | cons attempt rest ih =>
    simp only [closeAttempts, bind_eq_ok, pure_eq_ok, Prod.exists, Prod.mk.injEq] at h
    obtain ⟨s', receiptId, hclose, t', others, hrest, rfl, -⟩ := h
    obtain ⟨hsteps, hheads⟩ := closeAttempt_steps hhead (hopen attempt mem_cons_self) hclose
    refine hsteps.trans (ih (hheads ▸ hhead) ?_ hrest)
    intro other hother
    exact hopen other (mem_cons_of_mem _ hother)

lemma closeAttemptForCancel_steps (hhead : (task.taskId, task.head) ∈ s.ledger.heads)
    (h : s.closeAttemptForCancel task attempt = .ok (t, decision)) : Steps Quiet s t := by
  unfold closeAttemptForCancel at h
  split at h
  · obtain rfl := eq_of_bind_pure h
    exact .of_ledger rfl
  · simp only [bind_eq_ok, pure_eq_ok, refuseIf_eq_ok, Bool.not_eq_false, Prod.exists,
      Prod.mk.injEq] at h
    obtain ⟨-, hopen, s', receiptId, hclose, rfl, -⟩ := h
    exact (closeAttempt_steps hhead hopen hclose).1

lemma mem_listOpenAttempts : attempt ∈ s.listOpenAttempts taskId ↔
      attempt ∈ s.attempts ∧ attempt.taskId = taskId ∧ attempt.state.isOpenCandidate = true := by
  simp [listOpenAttempts, mem_insertionSort]

lemma ledger_updateTask_cancel : (s.updateTask taskId fun row =>
      { row with
        cancelEpoch := cancelEpoch
        controlEpoch := controlEpoch
        state := .cancelled }).ledger =
      { s.ledger with fences := setFence taskId cancelEpoch s.ledger.fences } := by
  simp only [ledger, updateTask, setFence]
  congr 1
  · exact map_updateRows fun _ => rfl
  · exact map_updateRows_view (fun _ => Iff.rfl) fun _ => rfl

lemma cancelTask_steps {key decision}
    (h : s.cancelTask taskId key = .ok (t, decision)) : Steps Quiet s t := by
  simp only [cancelTask, bind_eq_ok] at h
  obtain ⟨task, htask, h⟩ := h
  split at h
  · simp only [pure_eq_ok, Prod.mk.injEq] at h
    obtain ⟨rfl, -⟩ := h
    exact .of_ledger rfl
  · simp only [bind_eq_ok, pure_eq_ok, orRefuse_eq_ok, checkedSucc_eq_some, Prod.exists,
      Prod.mk.injEq] at h
    obtain ⟨cancelEpoch, ⟨-, rfl⟩, controlEpoch, -, s', closed, hclose, rfl, -⟩ := h
    have hhead := head_of_loadTask htask
    rw [← (mem_of_loadTask htask).2] at hhead
    refine (closeAttempts_steps hhead ?_ hclose).trans (.single (m := .quiet) ?_ rfl)
    · intro attempt hattempt
      exact (mem_listOpenAttempts.mp hattempt).2.2
    · have hchange : Change s'.ledger .quiet { s'.ledger with
          fences := setFence taskId (task.cancelEpoch + 1) s'.ledger.fences } :=
        .cancelled (Nat.succ_pos _)
      rw [← ledger_updateTask_cancel] at hchange
      exact hchange

lemma plannedSlots_spec (h : slot ∈ plannedSlots permitId taskId planned) :
    slot.permitId = permitId ∧ slot.taskId = taskId ∧ slot.state = .planned := by
  obtain ⟨⟨effect, effectSeq⟩, -, rfl⟩ := mem_map.mp h
  exact ⟨rfl, rfl, rfl⟩

lemma keyed_effectSeq_plannedSlots :
    Keyed SlotRecord.effectSeq (plannedSlots permitId taskId planned) := by
  have hmap : (plannedSlots permitId taskId planned).map SlotRecord.effectSeq =
      List.range planned.length := by
    rw [plannedSlots, map_map, range_eq_range', ← zipIdx_map_snd]
    rfl
  unfold Keyed
  rw [hmap]
  exact nodup_range

lemma nodup_of_checkPlannedEffects
    (h : checkPlannedEffects taskId generation seen planned = .ok u) (hseen : seen.Nodup) :
    (seen ++ planned.map fun effect => effect.descriptor.logicalEffectId).Nodup := by
  induction planned generalizing seen with
  | nil => simpa using hseen
  | cons effect rest ih =>
    simp only [checkPlannedEffects, bind_eq_ok, refuseIf_eq_ok] at h
    obtain ⟨-, -, -, hnew, hrest⟩ := h
    have hseen' : (seen ++ [effect.descriptor.logicalEffectId]).Nodup := by
      rw [nodup_append]
      refine ⟨hseen, nodup_singleton _, ?_⟩
      rintro digest hdigest other hother rfl
      rw [mem_singleton.mp hother] at hdigest
      exact hnew hdigest
    simpa using ih hrest hseen'

lemma keyed_logicalEffectId_plannedSlots
    (h : validatePlannedEffects boundTo generation planned = .ok root) :
    Keyed SlotRecord.logicalEffectId (plannedSlots permitId taskId planned) := by
  simp only [validatePlannedEffects, bind_eq_ok] at h
  obtain ⟨_, hcheck, -⟩ := h
  have hnodup := nodup_of_checkPlannedEffects hcheck nodup_nil
  have hmap : (plannedSlots permitId taskId planned).map SlotRecord.logicalEffectId =
      planned.map fun effect => effect.descriptor.logicalEffectId := by
    conv_rhs => rw [← zipIdx_map_fst (l := planned) (i := 0), map_map]
    rw [plannedSlots, map_map]
    rfl
  unfold Keyed
  rw [hmap]
  simpa using hnodup

/-- A permit is issued where no other of its task is outstanding. -/
lemma issuePermit_steps
    (hfree : ∀ p ∈ s.permits, p.taskId = request.taskId → p.state.isOutstanding = false)
    (htask : s.loadTask request.taskId = .ok task) (hepoch : ¬ 0 < task.cancelEpoch)
    (hattempt : s.loadAttempt request.taskId request.attemptId = .ok attempt)
    (hopen : attempt.state.isOpenCandidate = true)
    (h : s.issuePermit task attempt request evidence lease = .ok (t, permit)) :
    Steps Quiet s t := by
  simp only [issuePermit, bind_eq_ok, pure_eq_ok, orRefuse_eq_ok, insertRow_eq_some, Prod.exists,
    Prod.mk.injEq] at h
  obtain ⟨-, -, root, hplanned, permitEpoch, -, controlEpoch, -, -, -, frozen, binding, hfreeze,
    -, -, -, -, group, -, permits, ⟨hfresh, rfl⟩, u, hstate, rfl, -⟩ := h
  have hledger := ledger_of_freezeForPermit hfreeze
  have hpermits : frozen.permits = s.permits := congrArg Ledger.permits hledger
  have hzero : task.cancelEpoch = 0 := Nat.eq_zero_of_not_pos hepoch
  obtain ⟨hmem, htaskId, -⟩ := mem_of_loadAttempt hattempt
  have hfence := fence_of_loadTask htask
  rw [hzero, ← hledger] at hfence
  refine .single (m := .quiet) ?_ rfl
  rw [ledger_updateTask, (ledger_of_setAttemptState hstate).2, ← hledger]
  · refine Change.issued (l := frozen.ledger) ⟨?_, hopen, htaskId, rfl, hzero, _, hfence⟩ hfresh
      rfl ?_ (fun slot hslot => plannedSlots_spec hslot) keyed_effectSeq_plannedSlots
      (keyed_logicalEffectId_plannedSlots hplanned)
    · rw [hledger]
      exact hmem
    · intro p hp hid
      exact hfree p (hpermits ▸ hp) hid
  · exact fun _ => rfl
  · exact fun _ => rfl

lemma not_outstanding_of_load_none (hquarantined : s.loadQuarantinedPermit taskId = none)
    (hactive : s.loadActivePermit taskId = none) (hp : p ∈ s.permits)
    (htask : p.taskId = taskId) : p.state.isOutstanding = false := by
  have hq := find?_eq_none.mp hquarantined p hp
  have ha := find?_eq_none.mp hactive p hp
  cases hstate : p.state <;> simp_all [PermitState.isOutstanding]

/-- An attempt that competes is issued the permit, or ends conflicted or superseded. -/
lemma competeForPermit_steps (htask : s.loadTask request.taskId = .ok task)
    (hepoch : ¬ 0 < task.cancelEpoch)
    (hattempt : s.loadAttempt request.taskId request.attemptId = .ok attempt)
    (h : s.competeForPermit task attempt request evidence lease = .ok (t, decision)) :
    Steps Quiet s t := by
  simp only [competeForPermit, bind_eq_ok, refuseIf_eq_ok, Bool.not_eq_false] at h
  obtain ⟨-, hopen, h⟩ := h
  -- Every way to lose the competition only closes the attempt.
  have hlost : ∀ {state : AttemptState} {outcome : PermitDecision},
      (do let s ← s.setAttemptState attempt state none; pure (s, outcome)) = .ok (t, decision) →
      Steps Quiet s t := by
    intro state outcome hlost
    simp only [bind_eq_ok, pure_eq_ok, Prod.mk.injEq] at hlost
    obtain ⟨s', hstate, rfl, -⟩ := hlost
    refine .single (m := .quiet) ?_ rfl
    rw [(ledger_of_setAttemptState hstate).2]
    exact .lost hopen
  split at h
  · exact hlost h
  split at h
  · exact hlost h
  · next hquarantined =>
    split at h
    · split at h
      · exact hlost h
      · exact hlost h
    · next hactive =>
      simp only [bind_eq_ok, pure_eq_ok, Prod.exists, Prod.mk.injEq] at h
      obtain ⟨s', permit, hissue, rfl, -⟩ := h
      refine issuePermit_steps ?_ htask hepoch hattempt hopen hissue
      intro p hp hid
      have htaskId := (mem_of_loadTask htask).2
      exact not_outstanding_of_load_none hquarantined hactive hp (hid.trans htaskId.symm)

lemma requestCommitPermit_steps
    (h : s.requestCommitPermit request evidence lease = .ok (t, decision)) : Steps Quiet s t := by
  simp only [requestCommitPermit, bind_eq_ok] at h
  obtain ⟨task, htask, h⟩ := h
  obtain ⟨-, hid⟩ := mem_of_loadTask htask
  split at h
  · obtain rfl := eq_of_bind_pure h
    exact .of_ledger rfl
  · simp only [bind_eq_ok] at h
    obtain ⟨attempt, hattempt, -, -, h⟩ := h
    split at h
    · exact closeAttemptForCancel_steps (hid ▸ head_of_loadTask htask) h
    · next hepoch =>
      simp only [bind_eq_ok] at h
      obtain ⟨-, -, h⟩ := h
      exact competeForPermit_steps htask hepoch hattempt h

lemma ledger_of_admitMember {memberType : GroupMemberType}
    (h : s.admitMember parent memberType memberId memberGeneration = .ok (t, admitted)) :
    t.ledger = s.ledger := by
  simp only [admitMember, bind_eq_ok, pure_eq_ok, Prod.mk.injEq] at h
  obtain ⟨-, -, generationAfter, -, receipts, -, rfl, -⟩ := h
  rfl

lemma ledger_of_registerGroup {spec decision}
    (h : s.registerGroup spec = .ok (t, decision)) : t.ledger = s.ledger := by
  unfold registerGroup at h
  split at h
  · obtain rfl := eq_of_bind_pure h
    rfl
  · simp only [bind_eq_ok] at h
    obtain ⟨-, -, task, -, -, -, -, -, h⟩ := h
    split at h
    · simp only [bind_eq_ok, pure_eq_ok, Prod.exists, Prod.mk.injEq] at h
      obtain ⟨parent, depth, -, -, -, s', generationAfter, root, receiptId, hmember, rfl, -⟩ := h
      rw [ledger_of_admitMember hmember]
      rfl
    · obtain rfl := eq_of_bind_pure h
      rfl

lemma registerAttemptInGroup_steps
    (h : s.registerAttemptInGroup spec binding = .ok (t, registration)) : Steps Quiet s t := by
  simp only [registerAttemptInGroup, bind_eq_ok] at h
  obtain ⟨task, htask, h⟩ := h
  split at h
  · obtain rfl := eq_of_bind_pure h
    exact .of_ledger rfl
  · simp only [bind_eq_ok, pure_eq_ok, refuseIf_eq_ok, Prod.exists, Prod.mk.injEq] at h
    obtain ⟨-, hfresh, -, hstate, group, -, -, -, -, -, -, -, -, -, -, -, s', hsnapshot, u,
      generationAfter, root, receiptId, hmember, rfl, -⟩ := h
    refine .single (m := .quiet) ?_ rfl
    have hadmitted := ledger_of_admitMember hmember
    have hledger := ledger_of_insertSnapshotIfAbsent hsnapshot
    have hentered := entered_of_loadTask htask hfresh hstate none
    rw [← hledger] at hentered ⊢
    exact hadmitted ▸ hentered

lemma ledger_of_removeMember {memberId} {memberType : GroupMemberType} {memberGeneration decision}
    (h : s.removeMember groupId memberType memberId memberGeneration = .ok (t, decision)) :
    t.ledger = s.ledger := by
  simp only [removeMember, bind_eq_ok] at h
  obtain ⟨group, -, -, -, -, -, member, -, -, -, h⟩ := h
  split at h
  · obtain rfl := eq_of_bind_bind_pure h
    rfl
  · simp only [bind_eq_ok, pure_eq_ok, Prod.mk.injEq] at h
    obtain ⟨-, -, -, -, -, -, rfl, -⟩ := h
    rfl

variable {group : GroupRecord}

lemma ledger_of_sealGroup (h : s.sealGroup groupId = .ok (t, group)) : t.ledger = s.ledger := by
  simp only [sealGroup, bind_eq_ok] at h
  obtain ⟨found, -, h⟩ := h
  split at h
  · cases h
    rfl
  · cases h
    rfl
  · cases h

/-- A cancellation walks the groups below and closes the attempts it meets. -/
lemma propagateCancel_steps {before after : Propagation}
    (hhead : (task.taskId, task.head) ∈ before.store.ledger.heads)
    (h : propagateCancel task fuel group cancelEpoch before = .ok after) :
    Steps Quiet before.store after.store ∧
      after.store.ledger.heads = before.store.ledger.heads := by
  -- The members are visited by a fold, child groups by the induction on the height.
  induction fuel generalizing group cancelEpoch before after with
  | zero => cases h
  | succ fuel ih =>
    unfold propagateCancel at h
    refine foldlM_invariant (P := fun progress => Steps Quiet before.store progress.store ∧
      progress.store.ledger.heads = before.store.ledger.heads) ?_ ⟨.of_ledger rfl, rfl⟩ h
    rintro progress member next ⟨hsteps, hheads⟩ hnext
    have hcurrent : (task.taskId, task.head) ∈ progress.store.ledger.heads := hheads ▸ hhead
    split at hnext
    · cases hnext
      exact ⟨hsteps, hheads⟩
    split at hnext
    · simp only [bind_eq_ok] at hnext
      obtain ⟨attempt, -, hnext⟩ := hnext
      split at hnext
      · next hopen =>
        simp only [bind_eq_ok, pure_eq_ok, Prod.exists] at hnext
        obtain ⟨store, receiptId, hclose, rfl⟩ := hnext
        obtain ⟨hclosed, hkept⟩ := closeAttempt_steps hcurrent hopen hclose
        exact ⟨hsteps.trans hclosed, hkept.trans hheads⟩
      · cases hnext
        exact ⟨hsteps, hheads⟩
    · simp only [bind_eq_ok] at hnext
      obtain ⟨child, -, hnext⟩ := hnext
      split at hnext
      · cases hnext
        exact ⟨hsteps, hheads⟩
      · simp only [bind_eq_ok, pure_eq_ok] at hnext
        obtain ⟨childEpoch, -, below, hbelow, rfl⟩ := hnext
        obtain ⟨hchild, hkept⟩ := ih hcurrent hbelow
        exact ⟨(hsteps.trans hchild).trans (.of_ledger rfl), hkept.trans hheads⟩

lemma cancelGroup_steps {key decision}
    (h : s.cancelGroup groupId key = .ok (t, decision)) : Steps Quiet s t := by
  simp only [cancelGroup, bind_eq_ok] at h
  obtain ⟨group, -, h⟩ := h
  split at h
  · cases h
    exact .of_ledger rfl
  · simp only [bind_eq_ok, pure_eq_ok, Prod.mk.injEq] at h
    obtain ⟨-, -, task, htask, cancelEpoch, -, progress, hpropagate, rfl, -⟩ := h
    have hhead := head_of_loadTask htask
    rw [← (mem_of_loadTask htask).2] at hhead
    exact (propagateCancel_steps hhead hpropagate).1.trans (.of_ledger rfl)

lemma refreshGroupAggregate_steps
    (h : s.refreshGroupAggregate groupId = .ok (t, group)) : Steps Quiet s t := by
  simp only [refreshGroupAggregate, bind_eq_ok] at h
  obtain ⟨found, -, h⟩ := h
  split at h
  · cases h
    exact .of_ledger rfl
  · simp only [bind_eq_ok] at h
    obtain ⟨classes, -, h⟩ := h
    split at h
    · cases h
      exact .of_ledger rfl
    · split at h
      · simp only [bind_eq_ok, pure_eq_ok, Prod.mk.injEq] at h
        obtain ⟨task, htask, cancelEpoch, -, progress, hpropagate, record, -, rfl, -⟩ := h
        have hhead := head_of_loadTask htask
        rw [← (mem_of_loadTask htask).2] at hhead
        exact (propagateCancel_steps hhead hpropagate).1.trans (.of_ledger rfl)
      · simp only [bind_eq_ok, pure_eq_ok, Prod.mk.injEq] at h
        obtain ⟨record, -, rfl, -⟩ := h
        exact .of_ledger rfl

lemma ledger_of_acquireAuthorityLease {request anchor decision}
    (h : s.acquireAuthorityLease request anchor = .ok (t, decision)) : t.ledger = s.ledger := by
  simp only [acquireAuthorityLease, bind_eq_ok] at h
  obtain ⟨expiresAtMs, -, h⟩ := h
  split at h
  · obtain rfl := eq_of_bind_pure h
    rfl
  · split at h
    · cases h
      rfl
    · split at h
      · simp only [bind_eq_ok, pure_eq_ok, Prod.mk.injEq] at h
        obtain ⟨-, -, -, -, rfl, -⟩ := h
        rfl
      · simp only [bind_eq_ok, pure_eq_ok, Prod.mk.injEq] at h
        obtain ⟨-, -, -, -, rfl, -⟩ := h
        rfl

lemma ledger_of_prepareAuthorityTakeoverFence {lease requestedAtMs receipts registry}
    (h : s.prepareAuthorityTakeoverFence taskId expected lease requestedAtMs assignment receipts =
      .ok (t, registry)) : t.ledger = s.ledger := by
  simp only [prepareAuthorityTakeoverFence, bind_eq_ok, Prod.exists] at h
  obtain ⟨task, -, -, -, -, -, before, -, s', frozen, hfreeze, h⟩ := h
  have hledger := ledger_of_freezeForTakeover hfreeze
  split at h
  · obtain rfl := eq_of_bind_pure h
    exact hledger
  · simp only [bind_eq_ok, pure_eq_ok, Prod.mk.injEq] at h
    obtain ⟨controlEpoch, -, -, -, rfl, -⟩ := h
    rw [ledger_updateTask_controlEpoch, hledger]

lemma ledger_of_reopenSuccessorRegistry {lease reopenedAtMs takeover replay u}
    (h : s.reopenSuccessorRegistry taskId expected lease reopenedAtMs takeover replay
      assignment = .ok (t, u)) : t.ledger = s.ledger := by
  simp only [reopenSuccessorRegistry, bind_eq_ok] at h
  obtain ⟨-, -, -, -, task, -, registry, -, h⟩ := h
  split at h
  · obtain rfl := eq_of_bind_bind_pure h
    rfl
  · simp only [bind_eq_ok, pure_eq_ok, Prod.mk.injEq] at h
    obtain ⟨-, -, -, -, -, -, controlEpoch, -, s', hreopen, rfl, -⟩ := h
    rw [ledger_updateTask_controlEpoch, ledger_of_reopenAfterTakeover hreopen]

lemma ledger_of_reopenParticipantRegistryAfterPermitClosure {reopenedAtMs registries u}
    (h : s.reopenParticipantRegistryAfterPermitClosure taskId receiptId lease reopenedAtMs
      registries = .ok (t, u)) : t.ledger = s.ledger := by
  simp only [reopenParticipantRegistryAfterPermitClosure, bind_eq_ok, pure_eq_ok,
    Prod.mk.injEq] at h
  obtain ⟨-, -, task, -, receipt, -, -, -, permitId, -, frozen, -, permit, -, -, -, s', hreopen, -,
    -, rfl, -⟩ := h
  exact ledger_of_reopenRegistryOnPermitClosure hreopen

lemma ledger_of_registerVerifiedParticipant
    (h : s.registerVerifiedParticipant taskId expected participant owner assignment =
      .ok (t, registry)) : t.ledger = s.ledger := by
  simp only [registerVerifiedParticipant, bind_eq_ok, Prod.exists] at h
  obtain ⟨-, -, task, -, -, -, -, -, s', current, hinit, h⟩ := h
  have hledger := ledger_of_initializeRegistry hinit
  split at h
  · cases h
    exact hledger
  · simp only [bind_eq_ok, pure_eq_ok, Prod.mk.injEq] at h
    obtain ⟨-, -, -, -, -, -, -, -, -, -, next, -, rfl, -⟩ := h
    rw [ledger_setRegistry, hledger]

end TaskStore

end Nlos.Task
