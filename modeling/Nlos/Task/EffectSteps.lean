import Nlos.Task.PermitSteps

/-!
# Effects as ledger changes

Every transition of an effect slot made by a holder, by a reconciliation or by a late operation is
a slot move of the ledger under an outstanding permit.
-/

namespace Nlos.Task

open Lib

variable {permit : PermitRecord} {lease : Option AuthorityLeaseRecord} {task : TaskRecord}
  {slot updated : SlotRecord} {taskId permitId : Id} {attemptGeneration : ℕ}
  {decision : AdoptionReplay} {takeover : CrossTermEvidence} {request : ReconcileRequest}

namespace TaskStore

variable {s t : TaskStore}

lemma checkHolder_spec
    (h : s.checkHolder taskId attemptId attemptGeneration permitId permitEpoch =
      .ok (task, permit)) :
    s.loadTask taskId = .ok task ∧ s.loadPermitById taskId permitId = .ok permit ∧
      permit.state = .issued := by
  simp only [checkHolder, bind_eq_ok, pure_eq_ok, refuseIf_eq_ok, not_not, Prod.mk.injEq] at h
  obtain ⟨task', htask, permit', hpermit, attempt, -, -, -, -, hissued, -, -, -, -, rfl, rfl⟩ := h
  exact ⟨htask, hpermit, hissued⟩

def Touches (s : TaskStore) (permitId : Id) (lease : Option AuthorityLeaseRecord) (nowMs : ℤ)
    (mark : Mark) : Prop :=
  mark = .touched permitId ∧ s.Admits permitId lease nowMs

lemma admits_of_load (hpermit : s.loadPermitById taskId permitId = .ok permit)
    (hfenced : s.Fenced permit lease nowMs) : s.Admits permitId lease nowMs := by
  obtain ⟨hmem, -, hid⟩ := mem_of_loadPermitById hpermit
  exact ⟨permit, hmem, hid, hfenced⟩

lemma touches_of_checkHolder
    (hholder : s.checkHolder taskId attemptId attemptGeneration permitId permitEpoch =
      .ok (task, permit)) (hlease : s.validatePermitAuthorityLease permit nowMs lease = .ok u) :
    s.Touches permitId lease nowMs (.touched permit.permitId) := by
  obtain ⟨-, hpermit, -⟩ := checkHolder_spec hholder
  obtain ⟨-, -, hid⟩ := mem_of_loadPermitById hpermit
  exact ⟨by rw [hid], admits_of_load hpermit (fenced_of_validate hlease)⟩

lemma slotMoved_of_casSlot {u v : TaskStore} (hpermit : permit ∈ s.permits)
    (houtstanding : permit.state.isOutstanding = true) (hslot : slot ∈ s.slots)
    (hid : slot.permitId = permit.permitId)
    (hmove : SlotMove s.ledger permit slot target entries mark) (hu : u.ledger = s.ledger)
    (hcas : u.casSlot slot target effectPermitId effectReceiptId = .ok (v, updated))
    (ht : t.ledger = { v.ledger with history := v.ledger.history ++ entries }) :
    Change s.ledger mark t.ledger := by
  rw [ht, (ledger_of_casSlot hcas).1, hu]
  exact .slotMoved hpermit houtstanding hslot hid hmove

lemma slotMoved_of_checkHolder {u v : TaskStore}
    (hholder : s.checkHolder taskId attemptId attemptGeneration permitId permitEpoch =
      .ok (task, permit)) (hslot : s.loadSlot permitId effectSeq = .ok slot)
    (hmove : SlotMove s.ledger permit slot target entries mark) (hu : u.ledger = s.ledger)
    (hcas : u.casSlot slot target effectPermitId effectReceiptId = .ok (v, updated))
    (ht : t.ledger = { v.ledger with history := v.ledger.history ++ entries }) :
    Change s.ledger mark t.ledger := by
  obtain ⟨-, hpermit, hissued⟩ := checkHolder_spec hholder
  obtain ⟨hmem, -, hid⟩ := mem_of_loadPermitById hpermit
  obtain ⟨hslotMem, hslotId, -⟩ := mem_of_loadSlot hslot
  have houtstanding : permit.state.isOutstanding = true := by
    rw [hissued]
    rfl
  exact slotMoved_of_casSlot hmem houtstanding hslotMem (hslotId.trans hid.symm) hmove hu hcas ht

lemma requestEffectPermit_steps {request : EffectPermitRequest} {owners decision}
    (h : s.requestEffectPermit request owners lease = .ok (t, decision)) :
    Steps (s.Touches request.permitId lease request.requestedAtMs) s t := by
  unfold requestEffectPermit at h
  split at h
  · obtain rfl := eq_of_bind_pure h
    exact .of_ledger rfl
  · simp only [bind_eq_ok, pure_eq_ok, refuseIf_eq_ok, not_not, orRefuse_eq_ok, insertRow_eq_some,
      Prod.exists, Prod.mk.injEq] at h
    obtain ⟨task, permit, hholder, -, -, -, hepoch, -, -, -, -, _, hlease, slot, hslot, -, hplanned,
      -, hopen, -, -, controlEpoch, -, root, -, effectPermits, ⟨-, htokens⟩, s', updated, hcas, rfl,
      -⟩ := h
    obtain ⟨htask, hpermit, -⟩ := checkHolder_spec hholder
    obtain ⟨hmem, htaskId, -⟩ := mem_of_loadPermitById hpermit
    have htouches := touches_of_checkHolder hholder hlease
    -- the token is stored first, then the slot is permitted
    have htokened : Change s.ledger (.touched request.permitId)
        { s with effectPermits := effectPermits }.ledger := by
      rw [htokens]
      exact Change.tokened (l := s.ledger) rfl ⟨permit, hmem, hepoch.symm⟩
        ⟨task.state, fence_of_loadTask htask⟩
    refine (Steps.single htokened ⟨rfl, htouches.2⟩).trans (.single (slotMoved_of_checkHolder
      (s := { s with effectPermits := effectPermits }) hholder hslot
      (.permitted hplanned (htaskId ▸ hopen)) rfl hcas ?_) htouches)
    rw [ledger_updateTask_controlEpoch, List.append_nil]

/-- A dispatch moves one permitted slot under the lease of its permit. -/
lemma consumeDispatchToken_spec {request : DispatchRequest}
    (h : s.consumeDispatchToken request lease = .ok (t, updated)) :
    Change s.ledger (.dispatched updated.key) t.ledger ∧ updated ∈ t.slots ∧
      (∃ slot ∈ s.slots, slot.state = .permitted ∧ updated = slot.moved .dispatched none none) ∧
      s.Admits updated.permitId lease request.dispatchedAtMs := by
  simp only [consumeDispatchToken, bind_eq_ok, Prod.exists] at h
  obtain ⟨task, permit, hholder, -, -, -, -, effectPermit, htoken, -, -, -, -, -, -, -, -, _,
    hlease, slot, hslot, stored, -, h⟩ := h
  split at h
  · next hpermitted =>
    simp only [bind_eq_ok, pure_eq_ok, refuseIf_eq_ok, not_not, Prod.exists, Prod.mk.injEq] at h
    obtain ⟨-, -, -, hepoch, controlEpoch, -, s', moved, hcas, rfl, rfl⟩ := h
    obtain ⟨htask, hpermit, hissued⟩ := checkHolder_spec hholder
    obtain ⟨htokenMem, htokenTask⟩ := mem_of_loadEffectPermitById htoken
    obtain ⟨-, htaskId, -⟩ := mem_of_loadPermitById hpermit
    have hfence := fence_of_loadTask htask
    rw [hepoch, ← htaskId] at hfence
    obtain ⟨hledger, rfl⟩ := ledger_of_casSlot hcas
    refine ⟨slotMoved_of_checkHolder hholder hslot (.dispatched hpermitted hissued htokenMem
      (htokenTask.trans htaskId.symm) hfence) rfl hcas ?_,
      ?_, ⟨slot, (mem_of_loadSlot hslot).1, hpermitted, rfl⟩, ?_⟩
    · rw [ledger_updateTask_controlEpoch, List.append_nil]
    · have hslots : s'.slots = moveSlot slot .dispatched none none s.slots :=
        congrArg Ledger.slots hledger
      show slot.moved .dispatched none none ∈ s'.slots
      rw [hslots]
      exact mem_updateRows.mpr (.inr ⟨slot, (mem_of_loadSlot hslot).1, ⟨rfl, rfl, rfl⟩, rfl⟩)
    · have hadmits := (touches_of_checkHolder hholder hlease).2
      rwa [← (mem_of_loadSlot hslot).2.1] at hadmits
  · simp only [bind_eq_ok, reduceCtorEq, false_and, exists_false] at h
  · simp only [bind_eq_ok, reduceCtorEq, false_and, exists_false] at h

lemma appendOutcomeHistory_spec
    (htask : task.taskId = permit.taskId) (heffect : updated.logicalEffectId = slot.logicalEffectId)
    (hdispatched : slot.state = .dispatched)
    (h : s.appendOutcomeHistory task updated outcome receiptId = .ok t) :
    ∃ entries, SlotMove l permit slot outcome.targetState entries (.touched permit.permitId) ∧
      t.ledger = { s.ledger with history := s.ledger.history ++ entries } := by
  cases outcome with
  | closed =>
    obtain ⟨entry, hentryTask, hentryEffect, hentryOutcome, hledger⟩ :=
      ledger_of_appendHistoryEntry h
    exact ⟨[entry], .closed hdispatched (hentryTask.trans htask) (hentryEffect.trans heffect)
      hentryOutcome, hledger⟩
  | unknown =>
    cases h
    exact ⟨[], .unknown hdispatched, by simp⟩

/-- The outcome and its history entry concern the slot of the request alone. -/
lemma recordEffectOutcome_steps {request : OutcomeRequest} {decision}
    (h : s.recordEffectOutcome request lease = .ok (t, decision)) :
    Steps (s.Touches request.permitId lease request.recordedAtMs) s t := by
  simp only [recordEffectOutcome, bind_eq_ok, Prod.exists] at h
  obtain ⟨task, permit, hholder, slot, hslot, h⟩ := h
  obtain ⟨htask, hpermit, -⟩ := checkHolder_spec hholder
  split at h
  · obtain rfl := eq_of_bind_pure h
    exact .of_ledger rfl
  · next hstate =>
    simp only [bind_eq_ok, pure_eq_ok, Prod.exists, Prod.mk.injEq] at h
    obtain ⟨-, -, -, -, _, hlease, receipted, hreceipt, controlEpoch, -, moved, updated, hcas,
      noted, hhistory, rfl, -⟩ := h
    have hid : task.taskId = permit.taskId :=
      (mem_of_loadTask htask).2.trans (mem_of_loadPermitById hpermit).2.1.symm
    obtain ⟨-, rfl⟩ := ledger_of_casSlot hcas
    obtain ⟨entries, hmove, hnoted⟩ :=
      appendOutcomeHistory_spec (l := s.ledger) hid rfl (not_not.mp hstate) hhistory
    refine .single (slotMoved_of_checkHolder hholder hslot hmove
      (ledger_of_insertEffectReceipt hreceipt) hcas ?_) (touches_of_checkHolder hholder hlease)
    rw [ledger_updateTask_controlEpoch, hnoted]

lemma recordNoEffect_steps {request : NoEffectRequest} {decision}
    (h : s.recordNoEffect request lease = .ok (t, decision)) :
    Steps (s.Touches request.permitId lease request.recordedAtMs) s t := by
  simp only [recordNoEffect, bind_eq_ok, Prod.exists] at h
  obtain ⟨task, permit, hholder, slot, hslot, h⟩ := h
  split at h
  · obtain rfl := eq_of_bind_pure h
    exact .of_ledger rfl
  · simp only [bind_eq_ok, pure_eq_ok, Prod.exists, Prod.mk.injEq] at h
    obtain ⟨_, htoken, -, -, -, -, -, -, _, hlease, receipted, hreceipt, controlEpoch, -, moved,
      updated, hcas, rfl, -⟩ := h
    have hunconsumed : slot.state = .planned ∨ slot.state = .permitted := by
      unfold checkUnconsumedToken at htoken
      split at htoken
      · next hplanned => exact .inl hplanned
      · next hpermitted => exact .inr hpermitted
      · cases htoken
    refine .single (slotMoved_of_checkHolder hholder hslot
      (.noEffect hunconsumed) (ledger_of_insertEffectReceipt hreceipt) hcas ?_)
      (touches_of_checkHolder hholder hlease)
    rw [ledger_updateTask_controlEpoch, List.append_nil]

/-! ### Adoption and reconciliation -/

lemma ledger_of_casFiberBinding (h : s.casFiberBinding slot binding generation = .ok t) :
    t.ledger = { s.ledger with slots := bindSlot slot binding generation s.ledger.slots } := by
  simp only [casFiberBinding, bind_eq_ok, pure_eq_ok] at h
  obtain ⟨-, -, -, -, rfl⟩ := h
  rfl

lemma ledger_of_insertEffectRegistration (h : s.insertEffectRegistration record = .ok t) :
    t.ledger = s.ledger := by
  simp only [insertEffectRegistration, bind_eq_ok, pure_eq_ok] at h
  obtain ⟨-, -, registrations, -, rfl⟩ := h
  rfl

/-- A fiber binding leaves every slot in its state. -/
lemma registerEffectBinding_steps {request : RegisterEffectBindingRequest} {decision}
    (h : s.registerEffectBinding request lease = .ok (t, decision)) :
    Steps (s.Touches request.permitId lease request.registeredAtMs) s t := by
  simp only [registerEffectBinding, bind_eq_ok] at h
  obtain ⟨-, -, h⟩ := h
  split at h
  · obtain rfl := eq_of_bind_pure h
    exact .of_ledger rfl
  · simp only [bind_eq_ok, Prod.exists, refuseIf_eq_ok, not_not] at h
    obtain ⟨task, permit, hholder, slot, hslot, -, hopen, h⟩ := h
    split at h
    · simp only [bind_eq_ok, pure_eq_ok, Prod.mk.injEq] at h
      obtain ⟨-, -, existing, -, rfl, -⟩ := h
      exact .of_ledger rfl
    · simp only [bind_eq_ok, pure_eq_ok, Prod.mk.injEq] at h
      obtain ⟨-, -, _, hlease, bound, hcas, inserted, hinsert, rfl, -⟩ := h
      obtain ⟨-, hpermit, hissued⟩ := checkHolder_spec hholder
      obtain ⟨hmem, -, hid⟩ := mem_of_loadPermitById hpermit
      have houtstanding : permit.state.isOutstanding = true := by
        rw [hissued]
        rfl
      have hslotId := (mem_of_loadSlot hslot).2.1.trans hid.symm
      refine .single ?_ (touches_of_checkHolder hholder hlease)
      rw [ledger_of_insertEffectRegistration hinsert, ledger_of_casFiberBinding hcas]
      exact .bound hmem houtstanding hslotId hopen

lemma ledger_of_writeAdoption
    (h : s.writeAdoption task permit key binding crossTerm = .ok (t, decision)) :
    t.ledger = s.ledger := by
  simp only [writeAdoption, bind_eq_ok, pure_eq_ok, Prod.exists, Prod.mk.injEq] at h
  obtain ⟨counted, adoptionEpoch, hadvance, adopted, hinsert, controlEpoch, -, rfl, -⟩ := h
  rw [ledger_updateTask_controlEpoch, ledger_of_insertAdoption hinsert,
    ledger_of_advanceSequence hadvance]

lemma ledger_of_adoptPermit {request}
    (h : s.adoptPermit request lease = .ok (t, decision)) : t.ledger = s.ledger := by
  simp only [adoptPermit, bind_eq_ok] at h
  obtain ⟨task, -, permit, -, h⟩ := h
  split at h
  · obtain rfl := eq_of_bind_pure h
    rfl
  · simp only [bind_eq_ok] at h
    obtain ⟨-, -, -, -, -, -, -, -, hwrite⟩ := h
    exact ledger_of_writeAdoption hwrite

lemma ledger_of_adoptPermitAcrossTakeover {request takeoverReceiptId lease}
    (h : s.adoptPermitAcrossTakeover request takeoverReceiptId lease takeover = .ok (t, decision)) :
    t.ledger = s.ledger := by
  simp only [adoptPermitAcrossTakeover, bind_eq_ok] at h
  obtain ⟨task, -, permit, -, h⟩ := h
  split at h
  · obtain rfl := eq_of_bind_pure h
    rfl
  · simp only [bind_eq_ok] at h
    obtain ⟨-, -, -, -, -, -, current, -, hwrite⟩ := h
    exact ledger_of_writeAdoption hwrite

def Reconciles (key : Id × ℕ) (outcome : ReconcileOutcome) (mark : Mark) : Prop :=
  mark = .touched key.1 ∨ mark = .reconciled key outcome

lemma slotMove_of_resolution
    (hresolution : outcome.resolution = some (kind, historyOutcome))
    (hstate : slot.state = .reconciling) (htask : entry.taskId = permit.taskId)
    (heffect : entry.logicalEffectId = slot.logicalEffectId)
    (houtcome : entry.outcome = historyOutcome) :
    SlotMove l permit slot outcome.targetState [entry] (.reconciled slot.key outcome) := by
  cases outcome with
  | effectClosed =>
    cases hresolution
    exact .resolvedClosed hstate htask heffect houtcome
  | confirmedNoEffect =>
    cases hresolution
    exact .resolvedNoEffect hstate houtcome
  | effectUnknown => cases hresolution

/-- A reconciliation takes an unknown slot through `reconciling` to the outcome of the request. -/
lemma applyReconcileOutcome_steps
    (hpermit : permit ∈ s.permits) (houtstanding : permit.state.isOutstanding = true)
    (hslot : slot ∈ s.slots) (hid : slot.permitId = permit.permitId)
    (htask : task.taskId = permit.taskId) (hunknown : slot.state = .effectUnknown)
    (h : s.applyReconcileOutcome task slot request = .ok (t, updated, receiptId)) :
    Steps (Reconciles slot.key request.outcome) s t := by
  simp only [applyReconcileOutcome, bind_eq_ok, Prod.exists] at h
  obtain ⟨entered, reconciling, henter, h⟩ := h
  have hfirst : Change s.ledger (.touched permit.permitId) entered.ledger :=
    slotMoved_of_casSlot hpermit houtstanding hslot hid (.reconciling hunknown) rfl henter (by simp)
  obtain ⟨hentered, rfl⟩ := ledger_of_casSlot henter
  have hpermit' : permit ∈ entered.permits := by
    have hsame : entered.permits = s.permits := congrArg Ledger.permits hentered
    exact hsame ▸ hpermit
  have hslot' : slot.moved .reconciling none none ∈ entered.slots := by
    have hmoved : entered.slots = moveSlot slot .reconciling none none s.slots :=
      congrArg Ledger.slots hentered
    rw [hmoved]
    exact mem_updateRows.mpr (.inr ⟨slot, hslot, ⟨rfl, rfl, rfl⟩, rfl⟩)
  refine .trans (.single hfirst (.inl (by rw [← hid]; rfl))) ?_
  split at h
  · next hresolution =>
    simp only [bind_eq_ok, pure_eq_ok, Prod.exists, Prod.mk.injEq] at h
    obtain ⟨moved, final, hcas, rfl, -, -⟩ := h
    have houtcome : request.outcome = .effectUnknown := by
      cases hcase : request.outcome <;> simp_all [ReconcileOutcome.resolution]
    rw [houtcome] at hcas ⊢
    exact .single (slotMoved_of_casSlot hpermit' houtstanding hslot' hid (.unresolved rfl) rfl
      hcas (by simp)) (.inr rfl)
  · next kind historyOutcome hresolution =>
    simp only [bind_eq_ok, pure_eq_ok, Prod.exists, Prod.mk.injEq] at h
    obtain ⟨receipted, hreceipt, moved, final, hcas, noted, hhistory, rfl, -, -⟩ := h
    obtain ⟨-, rfl⟩ := ledger_of_casSlot hcas
    obtain ⟨entry, hentryTask, hentryEffect, hentryOutcome, hnoted⟩ :=
      ledger_of_appendHistoryEntry hhistory
    have hmove : SlotMove entered.ledger permit (slot.moved .reconciling none none)
        request.outcome.targetState [entry] (.reconciled slot.key request.outcome) :=
      slotMove_of_resolution hresolution rfl (hentryTask.trans htask) hentryEffect hentryOutcome
    exact .single (slotMoved_of_casSlot hpermit' houtstanding hslot' hid hmove
      (ledger_of_insertEffectReceipt hreceipt) hcas hnoted) (.inr rfl)

/-- The permit is issued again once none of its slots is unknown. -/
lemma liftQuarantine_steps (h : s.liftQuarantine permitId = .ok t) :
    Steps (· = .touched permitId) s t := by
  unfold liftQuarantine at h
  split at h
  · cases h
    exact .of_ledger rfl
  · refine .single (m := .touched permitId) ?_ rfl
    rw [ledger_of_casPermit h]
    exact .held rfl rfl

lemma fenced_of_checkReconcileAuthority
    (hadoption : adoption ∈ s.adoptions) (hpermit : adoption.originalPermitId = permit.permitId)
    (h : s.checkReconcileAuthority task permit adoption request lease takeover = .ok u) :
    s.Fenced permit lease request.reconciledAtMs := by
  unfold checkReconcileAuthority at h
  split at h
  · next hcross =>
    simp only [bind_eq_ok] at h
    obtain ⟨current, hcurrent, -⟩ := h
    exact fenced_of_validateCrossAdoption hadoption hpermit hcross hcurrent
  · simp only [bind_eq_ok] at h
    obtain ⟨-, -, -, -, hlease⟩ := h
    exact fenced_of_validate hlease

lemma mem_of_loadAdoptionById
    (h : s.loadAdoptionById taskId receiptId = some adoption) : adoption ∈ s.adoptions := by
  unfold loadAdoptionById at h
  rcases Option.or_eq_some_iff.mp h with hfound | ⟨-, hfound⟩
  · exact (mem_of_find? hfound).1
  · exact (mem_of_find? hfound).1

/-- A replayed reconciliation changes nothing; a new one is marked with its record. -/
lemma reconcileEffect_steps {decision}
    (h : s.reconcileEffect request lease takeover = .ok (t, decision)) :
    Steps (fun mark => s.Admits request.permitId lease request.reconciledAtMs ∧
      (mark = .touched request.permitId ∨ ∃ record, decision = .reconciled record ∧
        record.permitId = request.permitId ∧
        mark = .reconciled (record.permitId, record.effectSeq) record.outcome)) s t := by
  simp only [reconcileEffect, bind_eq_ok] at h
  obtain ⟨task, htask, permit, hpermit, -, -, adoption, hadoption, _, hbound, slot, hslot, h⟩ := h
  obtain ⟨hmem, htaskId, hid⟩ := mem_of_loadPermitById hpermit
  obtain ⟨hslotMem, hslotId, -⟩ := mem_of_loadSlot hslot
  split at h
  · obtain rfl := eq_of_bind_pure h
    exact .of_ledger rfl
  · next hunknown =>
    simp only [bind_eq_ok, pure_eq_ok, refuseIf_eq_ok, not_not, Prod.exists, Prod.mk.injEq] at h
    obtain ⟨_, hauthority, -, hquarantined, applied, updated, receiptId, happly, inserted, hinsert,
      lifted, hlift, controlEpoch, -, rfl, rfl⟩ := h
    have houtstanding : permit.state.isOutstanding = true := by
      rw [hquarantined]
      rfl
    have happlied := applyReconcileOutcome_steps hmem houtstanding hslotMem
      (hslotId.trans hid.symm) ((mem_of_loadTask htask).2.trans htaskId.symm)
      (not_not.mp hunknown) happly
    have hkey : slot.key = (permit.permitId, slot.effectSeq) :=
      Prod.ext (hslotId.trans hid.symm) rfl
    have hadmits : s.Admits request.permitId lease request.reconciledAtMs :=
      admits_of_load hpermit (fenced_of_checkReconcileAuthority
        (mem_of_loadAdoptionById (orRefuse_eq_ok.mp hadoption))
        (not_not.mp (refuseIf_eq_ok.mp hbound)) hauthority)
    have hlifted := liftQuarantine_steps hlift
    refine (happlied.mono ?_).trans ((Steps.of_ledger (ledger_of_insertReconcileReceipt
      hinsert)).trans ((hlifted.mono ?_).trans (.of_ledger ledger_updateTask_controlEpoch)))
    · rintro mark (rfl | rfl)
      · exact ⟨hadmits, .inl (by rw [hkey, hid])⟩
      · exact ⟨hadmits, .inr ⟨_, rfl, hid, by rw [hkey]; rfl⟩⟩
    · rintro mark rfl
      exact ⟨hadmits, .inl (by rw [hid])⟩

lemma mem_of_bindEndpoints (h : s.bindEndpoints endpoints = .ok bindings)
    (hmem : (permit, slot) ∈ bindings) :
    permit ∈ s.permits ∧ permit.state.isOutstanding = true ∧ slot ∈ s.slots ∧
      slot.permitId = permit.permitId := by
  induction endpoints generalizing bindings with
  | nil =>
    cases h
    cases hmem
  | cons endpoint rest ih =>
    obtain ⟨writeSet, effectSeq⟩ := endpoint
    unfold bindEndpoints at h
    split at h
    · exact ih h hmem
    · next found hfound =>
      split at h
      · exact ih h hmem
      · simp only [bind_eq_ok, pure_eq_ok] at h
        obtain ⟨bound, hbound, others, hothers, rfl⟩ := h
        rcases List.mem_cons.mp hmem with heq | hmem
        · cases heq
          obtain ⟨hstored, hcond⟩ := mem_of_find? hfound
          obtain ⟨hslot, hid, -⟩ := mem_of_loadSlot hbound
          exact ⟨hstored, (by simpa using hcond : _ ∧ _).2, hslot, hid⟩
        · exact ih hothers hmem

lemma reconcileLateOperationOutcome_steps {request : LateOperationOutcomeRequest} {decision}
    (h : s.reconcileLateOperationOutcome request lease = .ok (t, decision)) :
    Steps (fun mark => ∃ permitId, s.Touches permitId lease request.reconciledAtMs mark) s t := by
  simp only [reconcileLateOperationOutcome, bind_eq_ok] at h
  obtain ⟨terminalReceiptId, -, bindings, hbindings, h⟩ := h
  split at h
  · cases h
    exact .of_ledger rfl
  · next permit slot =>
    obtain ⟨hpermit, houtstanding, hslot, hid⟩ :=
      mem_of_bindEndpoints hbindings (List.mem_singleton_self (permit, slot))
    split at h
    · obtain rfl := eq_of_bind_pure h
      exact .of_ledger rfl
    · next hdispatched =>
      simp only [bind_eq_ok, pure_eq_ok, applyLateOperationClosure, Prod.exists, Prod.mk.injEq] at h
      obtain ⟨task, htask, -, -, -, -, _, hlease, closed, receipt, ⟨receipted, hreceipt,
        controlEpoch, -, moved, updated, hcas, noted, hhistory, rfl, -⟩, rfl, -⟩ := h
      obtain ⟨-, rfl⟩ := ledger_of_casSlot hcas
      obtain ⟨entry, hentryTask, hentryEffect, hentryOutcome, hnoted⟩ :=
        ledger_of_appendHistoryEntry hhistory
      refine .single (slotMoved_of_casSlot hpermit houtstanding hslot hid
        (.closed (not_not.mp hdispatched) (hentryTask.trans (mem_of_loadTask htask).2)
          hentryEffect hentryOutcome) (ledger_of_insertEffectReceipt hreceipt) hcas ?_)
        ⟨permit.permitId, rfl, permit, hpermit, rfl, fenced_of_validate hlease⟩
      rw [ledger_updateTask_controlEpoch, hnoted]
  · cases h

end TaskStore

end Nlos.Task
