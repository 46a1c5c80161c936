import Nlos.Task.TerminalSteps

/-!
# Every call is a sequence of ledger changes

The calls of the authority refine the ledger: each one makes changes whose marks tell which permit
was touched and by what right, and a run of calls keeps the ledger sound.
-/

namespace Nlos.Task

open Lib

def Operation.presented : Operation → Option (Option AuthorityLeaseRecord × ℤ)
  | requestEffectPermit request _ lease => some (lease, request.requestedAtMs)
  | consumeDispatchToken request lease => some (lease, request.dispatchedAtMs)
  | recordEffectOutcome request lease => some (lease, request.recordedAtMs)
  | recordNoEffect request lease => some (lease, request.recordedAtMs)
  | registerEffectBinding request lease => some (lease, request.registeredAtMs)
  | finalizeCommit request lease _ => some (lease, request.finalizedAtMs)
  | finalizeCommitV3 request lease _ => some (lease, request.base.finalizedAtMs)
  | closePermit request lease _ => some (lease, request.closedAtMs)
  | reconcileEffect request lease _ => some (lease, request.reconciledAtMs)
  | reconcileLateOperationOutcome request lease => some (lease, request.reconciledAtMs)
  | finalizeSemanticCommit _ finalizedAtMs lease _ _ => some (lease, finalizedAtMs)
  | _ => none

namespace TaskStore

def ConcernsPlan (s : TaskStore) (permitId : Id) : Operation → Prop
  | .planArtifactCommit request => request.permitId = permitId
  | .authorizeArtifactPublication planId | .recordArtifactPublications planId _
  | .finalizeArtifactCommit planId =>
    ∃ plan ∈ s.artifactPlans, plan.planId = planId ∧ plan.permitId = permitId
  | _ => False

def ConcernsReclaim (s : TaskStore) (permitId : Id) : Operation → Prop
  | .driveWorkingSetReclaim _ _ => ∃ permit ∈ s.permits, permit.permitId = permitId ∧
      permit.state = .issued ∧ permit.authorityLeaseBinding = none
  | _ => False

/-- The right by which a call touches a permit. -/
def MayTouch (s : TaskStore) (operation : Operation) (permitId : Id) : Prop :=
  (∃ lease nowMs, operation.presented = some (lease, nowMs) ∧ s.Admits permitId lease nowMs) ∨
    s.ConcernsPlan permitId operation ∨ s.ConcernsReclaim permitId operation

/-- The call may end the permit without looking at its Artifact plan. -/
def MayTerminate (s : TaskStore) (permitId : Id) : Operation → Prop
  | .finalizeCommit request _ _ => request.permitId = permitId
  | .finalizeCommitV3 request _ _ => request.base.permitId = permitId
  | .closePermit request _ _ => request.permitId = permitId
  | .finalizeSemanticCommit plan _ _ _ _ => plan.permitId = permitId
  | operation => s.ConcernsReclaim permitId operation

/-- The marks a call may leave, by what it asked and how it was answered. -/
def Marked (s : TaskStore) (operation : Operation) (answer : Answer) : Mark → Prop
  | .quiet => True
  | .touched permitId => s.MayTouch operation permitId
  | .planMoved permitId => s.ConcernsPlan permitId operation
  | .dispatched key => s.MayTouch operation key.1 ∧
      ∃ request lease slot, operation = .consumeDispatchToken request lease ∧
        answer = .ok (.dispatched slot) ∧ slot.key = key
  | .reconciled key outcome => s.MayTouch operation key.1 ∧
      ∃ request lease takeover record, operation = .reconcileEffect request lease takeover ∧
        answer = .ok (.reconcile (.reconciled record)) ∧
        (record.permitId, record.effectSeq) = key ∧ record.outcome = outcome
  | .terminated permitId => s.MayTouch operation permitId ∧ s.MayTerminate permitId operation
  | .planCommitted permitId planId => s.MayTouch operation permitId ∧
      operation = .finalizeArtifactCommit planId

variable {s t : TaskStore} {operation : Operation} {answer : Answer}

/-! ### From the operations to the calls -/

lemma transact_eq_ok {α : Type} {tx : Tx (TaskStore × α)} {reply r} :
    s.transact tx reply = (t, .ok r) ↔ ∃ a, tx = .ok (t, a) ∧ reply a = r := by
  cases tx with
  | error => simp [transact]
  | ok => simp [transact, Prod.ext_iff, and_assoc]

lemma transact_cases {α : Type} {tx : Tx (TaskStore × α)} {reply}
    (h : s.transact tx reply = (t, answer)) :
    t = s ∨ ∃ a, tx = .ok (t, a) ∧ answer = .ok (reply a) := by
  cases tx with
  | error =>
    cases h
    exact .inl rfl
  | ok result =>
    obtain ⟨u, a⟩ := result
    cases h
    exact .inr ⟨a, rfl, rfl⟩

lemma steps_of_transact {α : Type} {tx : Tx (TaskStore × α)} {reply}
    (hok : ∀ {u a}, tx = .ok (u, a) → Steps (s.Marked operation (.ok (reply a))) s u)
    (h : s.transact tx reply = (t, answer)) : Steps (s.Marked operation answer) s t := by
  rcases transact_cases h with rfl | ⟨a, htx, rfl⟩
  · exact .of_ledger rfl
  · exact hok htx

lemma steps_of_transact_ledger {α : Type} {tx : Tx (TaskStore × α)} {reply}
    (hok : ∀ {u a}, tx = .ok (u, a) → u.ledger = s.ledger)
    (h : s.transact tx reply = (t, answer)) : Steps (s.Marked operation answer) s t :=
  steps_of_transact (fun htx => .of_ledger (hok htx)) h

lemma marked_of_quiet (h : Quiet mark) : s.Marked operation answer mark := by
  cases h
  exact trivial

lemma steps_of_transact_quiet {α : Type} {tx : Tx (TaskStore × α)} {reply}
    (hok : ∀ {u a}, tx = .ok (u, a) → Steps Quiet s u)
    (h : s.transact tx reply = (t, answer)) : Steps (s.Marked operation answer) s t :=
  steps_of_transact (fun htx => (hok htx).mono fun _ => marked_of_quiet) h

lemma marked_of_touches {permitId lease nowMs mark}
    (hpresented : operation.presented = some (lease, nowMs))
    (h : s.Touches permitId lease nowMs mark) : s.Marked operation answer mark := by
  obtain ⟨rfl, hadmits⟩ := h
  exact .inl ⟨lease, nowMs, hpresented, hadmits⟩

lemma marked_of_terminates
    (htouch : s.MayTouch operation permitId) (hterminate : s.MayTerminate permitId operation)
    (h : Terminates permitId mark) : s.Marked operation answer mark := by
  rcases h with rfl | rfl | rfl
  · exact trivial
  · exact htouch
  · exact ⟨htouch, hterminate⟩

/-- Every operation changes the ledger only by changes its arguments and answer entitle it to. -/
lemma call_steps (hsound : s.ledger.Sound) (h : s.call operation = (t, answer)) :
    Steps (s.Marked operation answer) s t := by
  cases operation with
  | registerTask => exact steps_of_transact_quiet registerTask_steps h
  | registerAttempt => exact steps_of_transact_quiet registerAttempt_steps h
  | sealTaskWriteSet => exact steps_of_transact_ledger ledger_of_sealTaskWriteSet h
  | registerGroup => exact steps_of_transact_ledger ledger_of_registerGroup h
  | registerAttemptInGroup => exact steps_of_transact_quiet registerAttemptInGroup_steps h
  | removeMember => exact steps_of_transact_ledger ledger_of_removeMember h
  | sealGroup => exact steps_of_transact_ledger ledger_of_sealGroup h
  | acquireAuthorityLease => exact steps_of_transact_ledger ledger_of_acquireAuthorityLease h
  | prepareAuthorityTakeoverFence =>
    exact steps_of_transact_ledger ledger_of_prepareAuthorityTakeoverFence h
  | reopenSuccessorRegistry => exact steps_of_transact_ledger ledger_of_reopenSuccessorRegistry h
  | reopenParticipantRegistryAfterPermitClosure =>
    exact steps_of_transact_ledger ledger_of_reopenParticipantRegistryAfterPermitClosure h
  | registerVerifiedParticipant =>
    exact steps_of_transact_ledger ledger_of_registerVerifiedParticipant h
  | adoptPermit => exact steps_of_transact_ledger ledger_of_adoptPermit h
  | adoptPermitAcrossTakeover =>
    exact steps_of_transact_ledger ledger_of_adoptPermitAcrossTakeover h
  | requestCommitPermit => exact steps_of_transact_quiet requestCommitPermit_steps h
  | cancelTask => exact steps_of_transact_quiet cancelTask_steps h
  | cancelGroup => exact steps_of_transact_quiet cancelGroup_steps h
  | refreshGroupAggregate => exact steps_of_transact_quiet refreshGroupAggregate_steps h
  | requestEffectPermit =>
    exact steps_of_transact
      (fun hok => (requestEffectPermit_steps hok).mono fun _ => marked_of_touches rfl) h
  | consumeDispatchToken request lease =>
    refine steps_of_transact (fun hok => ?_) h
    obtain ⟨hchange, -, -, hadmits⟩ := consumeDispatchToken_spec hok
    exact .single hchange
      ⟨.inl ⟨lease, request.dispatchedAtMs, rfl, hadmits⟩, request, lease, _, rfl, rfl, rfl⟩
  | recordEffectOutcome =>
    exact steps_of_transact
      (fun hok => (recordEffectOutcome_steps hok).mono fun _ => marked_of_touches rfl) h
  | recordNoEffect =>
    exact steps_of_transact
      (fun hok => (recordNoEffect_steps hok).mono fun _ => marked_of_touches rfl) h
  | registerEffectBinding =>
    exact steps_of_transact
      (fun hok => (registerEffectBinding_steps hok).mono fun _ => marked_of_touches rfl) h
  | finalizeCommit request lease =>
    refine steps_of_transact (fun hok => (finalizeImpl_steps hsound hok).mono ?_) h
    rintro mark ⟨hmark, hadmits⟩
    exact marked_of_terminates (.inl ⟨lease, request.finalizedAtMs, rfl, hadmits⟩) rfl hmark
  | finalizeCommitV3 request lease =>
    refine steps_of_transact (fun hok => (finalizeImpl_steps hsound hok).mono ?_) h
    rintro mark ⟨hmark, hadmits⟩
    exact marked_of_terminates (.inl ⟨lease, request.base.finalizedAtMs, rfl, hadmits⟩) rfl hmark
  | closePermit request lease =>
    refine steps_of_transact (fun hok => (closePermit_steps hsound hok).mono ?_) h
    rintro mark ⟨hmark, hadmits⟩
    exact marked_of_terminates (.inl ⟨lease, request.closedAtMs, rfl, hadmits⟩) rfl hmark
  | finalizeSemanticCommit plan finalizedAtMs lease =>
    refine steps_of_transact (fun hok => (finalizeSemanticCommit_steps hok).mono ?_) h
    rintro mark ⟨hmark, hadmits⟩
    exact marked_of_terminates (.inl ⟨lease, finalizedAtMs, rfl, hadmits⟩) rfl hmark
  | reconcileEffect request lease takeover =>
    refine steps_of_transact (fun hok => (reconcileEffect_steps hok).mono ?_) h
    rintro mark ⟨hadmits, rfl | ⟨record, rfl, hid, rfl⟩⟩
    · exact .inl ⟨lease, request.reconciledAtMs, rfl, hadmits⟩
    · exact ⟨.inl ⟨lease, request.reconciledAtMs, rfl, hid ▸ hadmits⟩, request, lease, takeover,
        record, rfl, rfl, rfl, rfl⟩
  | reconcileLateOperationOutcome =>
    refine steps_of_transact (fun hok => (reconcileLateOperationOutcome_steps hok).mono ?_) h
    rintro mark ⟨permitId, htouches⟩
    exact marked_of_touches rfl htouches
  | planArtifactCommit =>
    refine steps_of_transact (fun hok => (planArtifactCommit_steps hok).mono ?_) h
    rintro mark rfl
    exact rfl
  | authorizeArtifactPublication =>
    refine steps_of_transact (fun hok => (authorizeArtifactPublication_steps hok).mono ?_) h
    rintro mark ⟨plan, hplan, hid, rfl⟩
    exact ⟨plan, hplan, hid, rfl⟩
  | recordArtifactPublications =>
    refine steps_of_transact (fun hok => (recordArtifactPublications_steps hok).mono ?_) h
    rintro mark ⟨plan, hplan, hid, rfl⟩
    exact ⟨plan, hplan, hid, rfl⟩
  | finalizeArtifactCommit =>
    refine steps_of_transact (fun hok => (finalizeArtifactCommit_steps hok).mono ?_) h
    rintro mark ⟨plan, hplan, hid, rfl⟩
    exact ⟨.inr (.inl ⟨plan, hplan, hid, rfl⟩), rfl⟩
  | driveWorkingSetReclaim request evidence =>
    cases h
    refine (driveWorkingSetReclaim_steps hsound).mono ?_
    rintro mark ⟨permit, hpermit, hissued, hunleased, hmark⟩
    have hreclaim : s.ConcernsReclaim permit.permitId (.driveWorkingSetReclaim request evidence) :=
      ⟨permit, hpermit, rfl, hissued, hunleased⟩
    exact marked_of_terminates (.inr (.inr hreclaim)) hreclaim hmark
  | outside =>
    cases h
    exact .of_ledger rfl

lemma steps_of_step (hsound : s.ledger.Sound) (h : s.step operation = .ok (t, answer)) :
    Steps (s.Marked operation answer) s t :=
  call_steps hsound (Except.ok.inj h)

end TaskStore

lemma Ledger.Sound.of_run
    (hsound : s.ledger.Sound) (hrun : Run TaskStore.step s h t) : t.ledger.Sound := by
  refine hrun.invariant (P := fun u => u.ledger.Sound) hsound ?_
  intro t u operation answer hpre hstep
  exact (TaskStore.steps_of_step hpre hstep).sound hpre

/-- The ledger of every reachable store is sound. -/
lemma sound_of_run
    (hrun : AuthorityRun profile authorityId h s) : s.ledger.Sound :=
  Ledger.Sound.of_run (s := .empty profile authorityId) Ledger.Sound.empty hrun

/-! ### A small authority -/

namespace Sample

def profile : ScaleProfile := ⟨"sample", 8, 8, none⟩

def attempt : AttemptSpec where
  taskId := 1
  attemptId := 3
  attemptGeneration := 1
  snapshot := ⟨2, 0, initialHead⟩
  cancellationScopeId := 0
  cancellationGeneration := 0
  idempotencyKey := 3
  registeredAtMs := 0

def registering : List Operation :=
  [.registerTask ⟨1, 1, none, none⟩, .registerAttempt attempt none (.ok ())]

def permit (plannedEffects : List PlannedEffect) (writeSetRoot : Digest) : PermitRequest where
  taskId := 1
  attemptId := 3
  attemptGeneration := 1
  writeSetRoot := writeSetRoot
  plannedEffects := plannedEffects
  idempotencyKey := 4
  validUntilMs := 100
  requestedAtMs := 1

def permitId : Id := derivePermitId 1 4

def evidence : TerminalEvidence := ⟨⟨.ok (), .ok (), .ok (), .ok ()⟩, .ok (), .ok ()⟩

def closePermit (lease : Option AuthorityLeaseRecord) : Operation :=
  .closePermit ⟨1, 3, 1, permitId, .failedBeforeEffect, 0, 2⟩ lease evidence

def expectation : ArtifactPublicationExpectation := ⟨5, 6, 1, 7, 8⟩

def writeSetRoot : Digest := artifactPublicationPlanRoot [expectation]

def planId : Id := derivePlanId permitId

def publication : NestedArtifactPublicationReceipt where
  receiptId := 9
  stagingId := 5
  artifactId := 6
  revision := 1
  digest := 7
  sizeBytes := 8
  taskId := 1
  permitId := permitId
  writeSetRoot := writeSetRoot
  priorHeadRevision := 0
  priorHeadDigest := none
  newHeadRevision := 1
  newHeadDigest := 7

def publishing (lease : Option AuthorityLeaseRecord) : List Operation :=
  registering ++
    [.requestCommitPermit (permit [] writeSetRoot) ⟨.ok (), .ok ()⟩ lease,
      .planArtifactCommit ⟨1, 3, 1, permitId, 10, [expectation]⟩,
      .authorizeArtifactPublication planId, .recordArtifactPublications planId [publication]]

def committing : List Operation := publishing none ++ [.finalizeArtifactCommit planId]

lemma exists_committing : ∃ h s, AuthorityRun profile 0 h s ∧ h.map Event.input = committing ∧
      decide (∃ plan ∈ s.artifactPlans, (∃ row ∈ s.publications, row.1 = plan.planId) ∧
        ∃ receipt ∈ s.receipts, receipt.permitId = some plan.permitId) = true :=
  exists_run_of_runCheck (f := TaskStore.step) (s := .empty profile 0) (by decide +kernel)

end Sample

end Nlos.Task
