import Nlos.Capability.Model
import Nlos.Lib.Run

/-!
# The operation machine

An external operation is dispatched under a callback ticket, may be cancelled, and ends with one
terminal callback.
-/

namespace Nlos.Operation

open Lib Capability

abbrev CancelEpoch := U64

structure FiberHandle where
  fiberId : Word 16
  generation : Generation
deriving DecidableEq

structure OperationHandle where
  operationId : Word 16
  generation : Generation
deriving DecidableEq

structure OperationSpec where
  operationId : Word 16
  generation : Generation
  ownerFiber : FiberHandle
  cancellationScopeId : Word 16
  cancellationGeneration : Generation
deriving DecidableEq

structure CallbackTicket where
  callbackId : Word 16
  operation : OperationHandle
  ownerFiber : FiberHandle
  cancelEpoch : CancelEpoch
deriving DecidableEq

inductive OperationState where
  | registered
  | dispatched
  | cancelRequested
  | completed (receiptId : ReceiptId)
  | failed (receiptId : ReceiptId)
  | cancelledBeforeEffect (receiptId : ReceiptId)
  | partialEffect (receiptId : ReceiptId)
  | effectUnknown (receiptId : ReceiptId)
deriving DecidableEq

def OperationState.isTerminal : OperationState → Bool
  | registered | dispatched | cancelRequested => false
  | _ => true

inductive CompletionOutcome where
  | completed (receiptId : ReceiptId)
  | failed (receiptId : ReceiptId)
  | cancelledBeforeEffect (receiptId : ReceiptId)
  | partialEffect (receiptId : ReceiptId)
  | effectUnknown (receiptId : ReceiptId)
deriving DecidableEq

def CompletionOutcome.state : CompletionOutcome → OperationState
  | completed receiptId => .completed receiptId
  | failed receiptId => .failed receiptId
  | cancelledBeforeEffect receiptId => .cancelledBeforeEffect receiptId
  | partialEffect receiptId => .partialEffect receiptId
  | effectUnknown receiptId => .effectUnknown receiptId

inductive CompletionDecision where
  | canonicalizedAndWake (state : OperationState)
  | canonicalizedForReconciliation (state : OperationState)
  | duplicate (state : OperationState)
deriving DecidableEq

def CompletionDecision.canonicalized : CompletionDecision → Bool
  | duplicate _ => false
  | _ => true

structure AcceptedCallback where
  callbackId : Word 16
  outcome : CompletionOutcome
deriving DecidableEq

structure IssuedCallback where
  callbackId : Word 16
  cancelEpoch : CancelEpoch
deriving DecidableEq

inductive OperationError where
  | invalidGeneration
  | invalidState
  | cancelEpochExhausted
  | callbackIdentityConflict
deriving DecidableEq

structure OperationSnapshot where
  handle : OperationHandle
  ownerFiber : FiberHandle
  cancelEpoch : CancelEpoch
  state : OperationState
deriving DecidableEq

structure OperationMachine where
  spec : OperationSpec
  cancelEpoch : CancelEpoch
  state : OperationState
  issuedCallback : Option IssuedCallback
  acceptedCallback : Option AcceptedCallback
deriving DecidableEq

namespace OperationMachine

def new (spec : OperationSpec) : OperationMachine := ⟨spec, 0, .registered, none, none⟩

def restore (spec : OperationSpec) (cancelEpoch : CancelEpoch) (state : OperationState)
    (issuedCallback : Option IssuedCallback) (acceptedCallback : Option AcceptedCallback) :
    Except OperationError OperationMachine :=
  let callbackIsTerminal := acceptedCallback.any fun callback =>
    callback.outcome.state = state ∧ state.isTerminal
  let issuedMatchesAccepted : Bool := match issuedCallback, acceptedCallback with
    | some issued, some accepted => issued.callbackId = accepted.callbackId
    | _, none => true
    | none, some _ => false
  let stateMatchesIssue : Bool := match state with
    | .registered => issuedCallback.isNone
    | .dispatched | .cancelRequested => issuedCallback.isSome && acceptedCallback.isNone
    | .cancelledBeforeEffect _ => issuedCallback.isSome == acceptedCallback.isSome
    | _ => issuedCallback.isSome && acceptedCallback.isSome
  let acceptanceIsValid : Bool := match acceptedCallback with
    | some _ => callbackIsTerminal
    | none => match state with
        | .registered | .dispatched | .cancelRequested | .cancelledBeforeEffect _ => true
        | _ => false
  let epochMatchesState : Bool := match issuedCallback with
    | none => match state with
        | .registered => cancelEpoch = 0
        | .cancelledBeforeEffect _ => cancelEpoch = 1
        | _ => false
    | some issued =>
      let sameEpoch : Bool := cancelEpoch = issued.cancelEpoch
      let cancelledEpoch : Bool := issued.cancelEpoch.checkedAdd 1 = some cancelEpoch
      match state with
      | .dispatched => sameEpoch
      | .cancelRequested => cancelledEpoch
      | .registered => false
      | _ => sameEpoch || cancelledEpoch
  if !issuedMatchesAccepted || !stateMatchesIssue || !acceptanceIsValid || !epochMatchesState then
    .error .invalidState
  else .ok ⟨spec, cancelEpoch, state, issuedCallback, acceptedCallback⟩

variable (m : OperationMachine)

def snapshot : OperationSnapshot :=
  ⟨⟨m.spec.operationId, m.spec.generation⟩, m.spec.ownerFiber, m.cancelEpoch, m.state⟩

def validateHandle (handle : OperationHandle) : Except OperationError Unit :=
  refuseIf (m.spec.operationId ≠ handle.operationId ∨ m.spec.generation ≠ handle.generation)
    .invalidGeneration

def dispatch (handle : OperationHandle) (callbackId : Word 16) :
    Except OperationError (OperationMachine × CallbackTicket) := do
  m.validateHandle handle
  refuseIf (m.state ≠ .registered) .invalidState
  pure ({ m with state := .dispatched, issuedCallback := some ⟨callbackId, m.cancelEpoch⟩ },
    ⟨callbackId, handle, m.spec.ownerFiber, m.cancelEpoch⟩)

def requestCancel (handle : OperationHandle) (noEffectReceipt : ReceiptId) :
    Except OperationError (OperationMachine × OperationSnapshot) := do
  m.validateHandle handle
  refuseIf (m.state ≠ .registered ∧ m.state ≠ .dispatched) .invalidState
  let cancelEpoch ← orRefuse (m.cancelEpoch.checkedAdd 1) .cancelEpochExhausted
  let cancelled := { m with
    cancelEpoch
    state := if m.state = .registered then .cancelledBeforeEffect noEffectReceipt
      else .cancelRequested }
  pure (cancelled, cancelled.snapshot)

def complete (ticket : CallbackTicket) (outcome : CompletionOutcome) :
    Except OperationError (OperationMachine × CompletionDecision) := do
  m.validateHandle ticket.operation
  refuseIf (ticket.ownerFiber ≠ m.spec.ownerFiber) .invalidGeneration
  let issued ← orRefuse m.issuedCallback .invalidState
  refuseIf (issued.callbackId ≠ ticket.callbackId ∨ issued.cancelEpoch ≠ ticket.cancelEpoch)
    .invalidGeneration
  match m.acceptedCallback with
  | some accepted =>
    refuseIf (accepted.callbackId ≠ ticket.callbackId) .invalidState
    refuseIf (accepted.outcome ≠ outcome) .callbackIdentityConflict
    pure (m, .duplicate m.state)
  | none =>
    refuseIf (m.state ≠ .dispatched ∧ m.state ≠ .cancelRequested) .invalidState
    let ended := { m with
      state := outcome.state
      acceptedCallback := some ⟨ticket.callbackId, outcome⟩ }
    -- The owner is woken only when nothing was cancelled since the dispatch.
    if ticket.cancelEpoch = m.cancelEpoch ∧ m.state = .dispatched then
      pure (ended, .canonicalizedAndWake ended.state)
    else pure (ended, .canonicalizedForReconciliation ended.state)

end OperationMachine

inductive OperationCall where
  | dispatch (handle : OperationHandle) (callbackId : Word 16)
  | requestCancel (handle : OperationHandle) (noEffectReceipt : ReceiptId)
  | complete (ticket : CallbackTicket) (outcome : CompletionOutcome)
  /-- Saves the fields, loses the machine and restores it. -/
  | restore

inductive OperationAnswer where
  | dispatched (ticket : CallbackTicket)
  | cancelRequested (snapshot : OperationSnapshot)
  | completed (decision : CompletionDecision)
  | restored
deriving DecidableEq

namespace OperationMachine

def call (m : OperationMachine) :
    OperationCall → Except OperationError (OperationMachine × OperationAnswer)
  | .dispatch handle callbackId => Prod.map id .dispatched <$> m.dispatch handle callbackId
  | .requestCancel handle receipt => Prod.map id .cancelRequested <$> m.requestCancel handle receipt
  | .complete ticket outcome => Prod.map id .completed <$> m.complete ticket outcome
  | .restore => (·, .restored) <$>
      restore m.spec m.cancelEpoch m.state m.issuedCallback m.acceptedCallback

/-- A refused call leaves the machine as it was. -/
def step (m : OperationMachine) (call : OperationCall) :
    Except Empty (OperationMachine × Except OperationError OperationAnswer) :=
  .ok (commit m (m.call call))

end OperationMachine

/-- What a machine has been through: nothing yet, a cancellation before the dispatch, or a dispatch
under a callback, with a later cancellation or not and with the outcome that was accepted. -/
inductive Phase where
  | registered
  | cancelledEarly (receiptId : ReceiptId)
  | issued (callbackId : Word 16) (cancelled : Bool) (accepted : Option CompletionOutcome)

namespace Phase

def machine (spec : OperationSpec) : Phase → OperationMachine
  | registered => .new spec
  | cancelledEarly receiptId => ⟨spec, 1, .cancelledBeforeEffect receiptId, none, none⟩
  | issued callbackId cancelled accepted =>
    { spec
      cancelEpoch := if cancelled then 1 else 0
      state := match accepted with
        | some outcome => outcome.state
        | none => if cancelled then .cancelRequested else .dispatched
      issuedCallback := some ⟨callbackId, 0⟩
      acceptedCallback := accepted.map fun outcome => ⟨callbackId, outcome⟩ }

def Cancelled : Phase → Prop
  | registered => False
  | cancelledEarly _ => True
  | issued _ cancelled _ => cancelled = true

def ended : Phase → Bool
  | issued _ _ (some _) => true
  | _ => false

def ticket (spec : OperationSpec) (callbackId : Word 16) : CallbackTicket :=
  ⟨callbackId, ⟨spec.operationId, spec.generation⟩, spec.ownerFiber, 0⟩

inductive Moves (spec : OperationSpec) : Phase → OperationCall →
    Except OperationError OperationAnswer → Phase → Prop
  | dispatch {handle callbackId t} :
      Moves spec registered (.dispatch handle callbackId) (.ok (.dispatched t))
        (issued callbackId false none)
  | cancelEarly {handle receiptId s} :
      Moves spec registered (.requestCancel handle receiptId) (.ok (.cancelRequested s))
        (cancelledEarly receiptId)
  | cancel {callbackId handle receiptId s} :
      Moves spec (issued callbackId false none) (.requestCancel handle receiptId)
        (.ok (.cancelRequested s)) (issued callbackId true none)
  | wake {callbackId outcome} :
      Moves spec (issued callbackId false none) (.complete (ticket spec callbackId) outcome)
        (.ok (.completed (.canonicalizedAndWake outcome.state)))
        (issued callbackId false (some outcome))
  | reconcile {callbackId outcome} :
      Moves spec (issued callbackId true none) (.complete (ticket spec callbackId) outcome)
        (.ok (.completed (.canonicalizedForReconciliation outcome.state)))
        (issued callbackId true (some outcome))
  | stay {p call answer} (hcancel : ∀ handle receiptId, call = .requestCancel handle receiptId →
      ∃ e, answer = .error e)
      (hdecision : ∀ d, answer = .ok (.completed d) → d.canonicalized = false) :
      Moves spec p call answer p

variable {spec : OperationSpec} {p p' : Phase}

lemma eq_registered (h : (p.machine spec).state = .registered) : p = registered := by
  match p with
  | registered => rfl
  | issued _ false none | issued _ true none => simp [machine] at h
  | issued _ _ (some outcome) => cases outcome <;> simp [machine, CompletionOutcome.state] at h

lemma eq_dispatched (h : (p.machine spec).state = .dispatched) :
    ∃ callbackId, p = issued callbackId false none := by
  match p with
  | registered => simp [machine, OperationMachine.new] at h
  | issued callbackId false none => exact ⟨callbackId, rfl⟩
  | issued _ true none => simp [machine] at h
  | issued _ _ (some outcome) => cases outcome <;> simp [machine, CompletionOutcome.state] at h

lemma checkedAdd_initial : (0 : CancelEpoch).checkedAdd 1 = some 1 := rfl

lemma restore_machine (spec : OperationSpec) (p : Phase) :
    OperationMachine.restore (p.machine spec).spec (p.machine spec).cancelEpoch
      (p.machine spec).state (p.machine spec).issuedCallback (p.machine spec).acceptedCallback =
      .ok (p.machine spec) := by
  match p with
  | registered | cancelledEarly _ | issued _ false none | issued _ true none =>
    simp [machine, OperationMachine.new, OperationMachine.restore, checkedAdd_initial]
  | issued _ false (some outcome) | issued _ true (some outcome) =>
    cases outcome <;>
      simp [machine, OperationMachine.restore, CompletionOutcome.state, checkedAdd_initial,
        OperationState.isTerminal]

lemma ticket_eq
    (h : ((issued callbackId cancelled accepted).machine spec).complete t outcome = .ok r) :
    t = ticket spec callbackId := by
  simp only [OperationMachine.complete, OperationMachine.validateHandle, bind_eq_ok,
    refuseIf_eq_ok, orRefuse_eq_ok] at h
  obtain ⟨_, hhandle, _, hfiber, issued, hissued, _, hticket, -⟩ := h
  obtain ⟨id, ⟨operationId, generation⟩, fiber, epoch⟩ := t
  simp only [machine, Option.some.injEq] at hissued
  subst hissued
  simp only [machine, not_or, not_not] at hhandle hfiber hticket
  obtain ⟨rfl, rfl⟩ := hhandle
  obtain ⟨rfl, rfl⟩ := hticket
  rw [hfiber]
  rfl

lemma complete_accepted (spec : OperationSpec) (callbackId : Word 16) (cancelled : Bool)
    (accepted outcome : CompletionOutcome) :
    ((issued callbackId cancelled (some accepted)).machine spec).complete
        (ticket spec callbackId) outcome =
      if accepted = outcome then
        .ok ((issued callbackId cancelled (some accepted)).machine spec,
          .duplicate accepted.state)
      else .error .callbackIdentityConflict := by
  by_cases heq : accepted = outcome <;>
    simp [OperationMachine.complete, OperationMachine.validateHandle, machine, ticket, refuseIf,
      orRefuse, bind, Except.bind, pure, Except.pure, heq]

lemma complete_issued (spec : OperationSpec) (callbackId : Word 16) (cancelled : Bool)
    (outcome : CompletionOutcome) :
    ((issued callbackId cancelled none).machine spec).complete (ticket spec callbackId) outcome =
      .ok ((issued callbackId cancelled (some outcome)).machine spec,
        if cancelled then .canonicalizedForReconciliation outcome.state
        else .canonicalizedAndWake outcome.state) := by
  cases cancelled <;>
    simp [OperationMachine.complete, OperationMachine.validateHandle, machine, ticket, refuseIf,
      orRefuse, bind, Except.bind, pure, Except.pure]

variable {call : OperationCall} {answer : Except OperationError OperationAnswer}

/-- Every call of the machine moves its operation along the life cycle. -/
lemma moves_of_step {m} (h : (p.machine spec).step call = .ok (m, answer)) :
    ∃ p', m = p'.machine spec ∧ Moves spec p call answer p' := by
  have hcommit := Except.ok.inj h
  cases answer with
  | error e =>
    obtain ⟨-, rfl⟩ := commit_eq_error.mp hcommit
    exact ⟨p, rfl, .stay (fun _ _ _ => ⟨e, rfl⟩) (by simp)⟩
  | ok =>
    have hcall := commit_eq_ok.mp hcommit
    cases call with
    | dispatch =>
      simp only [OperationMachine.call, OperationMachine.dispatch, map_eq_ok, bind_eq_ok,
        refuseIf_eq_ok, not_not, pure_eq_ok] at hcall
      obtain ⟨_, ⟨_, -, _, hstate, rfl⟩, hpair⟩ := hcall
      obtain ⟨rfl, rfl⟩ := Prod.mk.inj hpair
      obtain rfl := eq_registered hstate
      exact ⟨_, rfl, .dispatch⟩
    | requestCancel =>
      simp only [OperationMachine.call, OperationMachine.requestCancel, map_eq_ok, bind_eq_ok,
        refuseIf_eq_ok, orRefuse_eq_ok, not_and_or, not_not, pure_eq_ok] at hcall
      obtain ⟨_, ⟨_, -, _, hstate, epoch, hepoch, rfl⟩, hpair⟩ := hcall
      obtain ⟨rfl, rfl⟩ := Prod.mk.inj hpair
      rcases hstate with hstate | hstate
      · obtain rfl := eq_registered hstate
        cases checkedAdd_initial.symm.trans hepoch
        exact ⟨_, rfl, .cancelEarly⟩
      · obtain ⟨callbackId, rfl⟩ := eq_dispatched hstate
        cases checkedAdd_initial.symm.trans hepoch
        exact ⟨_, rfl, .cancel⟩
    | complete t outcome =>
      obtain ⟨d, hcomplete, rfl⟩ := map_snd_eq_ok.mp hcall
      match p with
      | registered | cancelledEarly _ =>
        simp [OperationMachine.complete, machine, OperationMachine.new, bind_eq_ok,
          orRefuse_eq_ok] at hcomplete
      | issued callbackId cancelled none =>
        obtain rfl := ticket_eq hcomplete
        obtain ⟨rfl, rfl⟩ := Prod.mk.inj (Except.ok.inj
          ((complete_issued spec callbackId cancelled outcome).symm.trans hcomplete))
        cases cancelled with
        | false => exact ⟨_, rfl, .wake⟩
        | true => exact ⟨_, rfl, .reconcile⟩
      | issued callbackId cancelled (some accepted) =>
        obtain rfl := ticket_eq hcomplete
        rw [complete_accepted] at hcomplete
        split at hcomplete
        · obtain ⟨rfl, rfl⟩ := Prod.mk.inj (Except.ok.inj hcomplete)
          refine ⟨_, rfl, .stay (by simp) fun d hd => ?_⟩
          cases hd
          rfl
        · simp at hcomplete
    | restore =>
      obtain ⟨m', hrestore, hpair⟩ := map_eq_ok.mp hcall
      obtain ⟨rfl, rfl⟩ := Prod.mk.inj hpair
      obtain rfl := Except.ok.inj ((restore_machine spec p).symm.trans hrestore)
      exact ⟨p, rfl, .stay (by simp) (by simp)⟩

lemma Moves.eq_of_ended (h : Moves spec p call answer p') (hended : p.ended = true) : p' = p := by
  cases h with
  | stay => rfl
  | _ => simp [ended] at hended

lemma Moves.cancelled
    (h : Moves spec p call answer p') (hcancelled : p.Cancelled) : p'.Cancelled := by
  cases h with
  | stay => exact hcancelled
  | reconcile => rfl
  | _ => simp [Cancelled] at hcancelled

end Phase

abbrev OperationEvent :=
  Event OperationMachine OperationCall (Except OperationError OperationAnswer)

def canonicalizes (e : OperationEvent) : Bool :=
  match e.output with
  | .ok (.completed d) => d.canonicalized
  | _ => false

def cancels (e : OperationEvent) : Bool :=
  match e.input, e.output with
  | .requestCancel _ _, .ok _ => true
  | _, _ => false

section Histories

open Phase

variable {spec : OperationSpec} {h : List OperationEvent} {m : OperationMachine}

/-- An event that accepts a callback ends the operation; every other keeps it as it was. -/
lemma countP_of_moves
    (h : Moves spec p e.input e.output p') :
    (if p.ended then 1 else 0) + [e].countP canonicalizes = if p'.ended then 1 else 0 := by
  obtain ⟨pre, call, answer⟩ := e
  cases h with
  | stay _ hdecision =>
    have hnot : canonicalizes ⟨pre, call, answer⟩ = false := by
      cases answer with
      | error => rfl
      | ok a =>
        cases a with
        | completed d => exact hdecision d rfl
        | _ => rfl
    simp [hnot]
  | _ => simp [ended, canonicalizes, CompletionDecision.canonicalized]

lemma exists_phase (hrun : Run OperationMachine.step (.new spec) h m) :
    ∃ p : Phase, m = p.machine spec ∧ h.countP canonicalizes = (if p.ended then 1 else 0) ∧
      ((∃ e ∈ h, cancels e = true) → p.Cancelled) := by
  induction hrun with
  | refl => exact ⟨.registered, rfl, rfl, by simp⟩
  | snoc hrun hstep ih =>
    obtain ⟨p, rfl, hcount, hcancelled⟩ := ih
    obtain ⟨p', hm, hmoves⟩ := moves_of_step hstep
    refine ⟨p', hm, ?_, ?_⟩
    · rw [List.countP_append, hcount]
      exact countP_of_moves hmoves
    · rintro ⟨e, he, hcancels⟩
      rcases List.mem_append.mp he with hold | hnew
      · exact hmoves.cancelled (hcancelled ⟨e, hold, hcancels⟩)
      · obtain rfl := List.mem_singleton.mp hnew
        cases hmoves with
        | cancelEarly | cancel => simp [Cancelled]
        | stay hcancel =>
          simp only [cancels] at hcancels
          split at hcancels
          · obtain ⟨e, he⟩ := hcancel _ _ rfl
            simp at he
          · simp at hcancels
        | _ => simp [cancels] at hcancels

lemma eq_of_run_ended {p : Phase} (hended : p.ended = true)
    (hrun : Run OperationMachine.step (p.machine spec) h m) : m = p.machine spec := by
  refine hrun.invariant (P := fun m => m = p.machine spec) rfl ?_
  rintro _ u call answer rfl hstep
  obtain ⟨p', rfl, hmoves⟩ := moves_of_step hstep
  rw [hmoves.eq_of_ended hended]

/-- Over every history of calls and restarts: restoring gives the machine back, at most one call
accepts a callback, and from then on the machine stays as it is, answers the same callback as a
duplicate and refuses it with another outcome. The owner is woken only when no cancellation was
granted before. -/
theorem callbacks_canonicalized_once (hrun : Run OperationMachine.step (.new spec) h m) :
    OperationMachine.restore m.spec m.cancelEpoch m.state m.issuedCallback m.acceptedCallback =
      .ok m ∧
    h.countP canonicalizes ≤ 1 ∧
    ∀ h₁ e h₂ t outcome d, h = h₁ ++ e :: h₂ → e.input = .complete t outcome →
      e.output = .ok (.completed d) → d.canonicalized = true →
      e.pre.step e.input = .ok (m, e.output) ∧ m.state = outcome.state ∧
      m.complete t outcome = .ok (m, .duplicate m.state) ∧
      (∀ outcome', outcome' ≠ outcome →
        m.complete t outcome' = .error .callbackIdentityConflict) ∧
      ((∃ s, d = .canonicalizedAndWake s) → ∀ e' ∈ h₁, cancels e' = false) := by
  obtain ⟨p, rfl, hcount, -⟩ := exists_phase hrun
  refine ⟨restore_machine spec p, by rw [hcount]; split <;> omega, ?_⟩
  rintro h₁ ⟨pre, call, answer⟩ h₂ t outcome d rfl rfl rfl hcanonical
  obtain ⟨hbefore, u, hstep, hafter⟩ := hrun.split
  obtain ⟨q, rfl, -, hcancelled⟩ := exists_phase hbefore
  obtain ⟨q', rfl, hmoves⟩ := moves_of_step hstep
  have hend (callbackId : Word 16) (cancelled : Bool)
      (hq' : q' = issued callbackId cancelled (some outcome)) (ht : t = ticket spec callbackId) :
      (q.machine spec).step (.complete t outcome) = .ok (p.machine spec, .ok (.completed d)) ∧
      (p.machine spec).state = outcome.state ∧
      (p.machine spec).complete t outcome =
        .ok (p.machine spec, .duplicate (p.machine spec).state) ∧
      ∀ outcome', outcome' ≠ outcome →
        (p.machine spec).complete t outcome' = .error .callbackIdentityConflict := by
    subst hq' ht
    rw [eq_of_run_ended rfl hafter]
    refine ⟨hstep, rfl, ?_, fun outcome' hne => ?_⟩
    · rw [complete_accepted, if_pos rfl]
      rfl
    · rw [complete_accepted, if_neg hne.symm]
  cases hmoves with
  | @wake callbackId =>
    obtain ⟨hstep', hstate, hduplicate, hconflict⟩ := hend callbackId false rfl rfl
    refine ⟨hstep', hstate, hduplicate, hconflict, fun _ e' he' => ?_⟩
    by_contra hcancels
    simpa [Cancelled] using hcancelled ⟨e', he', by simpa using hcancels⟩
  | @reconcile callbackId =>
    obtain ⟨hstep', hstate, hduplicate, hconflict⟩ := hend callbackId true rfl rfl
    exact ⟨hstep', hstate, hduplicate, hconflict, by simp⟩
  | stay _ hdecision => simp [hdecision d rfl] at hcanonical

end Histories

def sampleSpec : OperationSpec := ⟨1, .initial, ⟨2, .initial⟩, 3, .initial⟩

/-- A dispatch, a callback, a restart and the same callback again. -/
def sampleCalls : List OperationCall :=
  [.dispatch ⟨1, .initial⟩ 4, .complete (Phase.ticket sampleSpec 4) (.completed 5), .restore,
    .complete (Phase.ticket sampleSpec 4) (.completed 5)]

theorem callbacks_canonicalized_once_sample :
    ∃ h m, Run OperationMachine.step (.new sampleSpec) h m ∧ h.map Event.input = sampleCalls ∧
      h.countP canonicalizes = 1 ∧ OperationMachine.restore m.spec m.cancelEpoch m.state
        m.issuedCallback m.acceptedCallback = .ok m := by
  obtain ⟨h, m, hrun, hinputs, hcheck⟩ :=
    exists_run_of_runCheck (show runCheck OperationMachine.step (.new sampleSpec) sampleCalls
      (fun h _ => h.countP canonicalizes = 1) = true by decide +kernel)
  exact ⟨h, m, hrun, hinputs, by simpa using hcheck, (callbacks_canonicalized_once hrun).1⟩

end Nlos.Operation
