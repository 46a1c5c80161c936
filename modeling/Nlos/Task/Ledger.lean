import Nlos.Task.Access

/-!
# The permit ledger

What the authority is for: a task has one position, one attempt at a time may hold the permit to
advance it, and the effects dispatched under a permit are accounted for before the permit ends.
A ledger keeps the tables this rests on, and a change is one write to them with the facts that
hold when it is made. Every call of the authority is a sequence of changes.
-/

namespace Nlos.Task

open Lib

structure Ledger where
  heads : List (Id × Head)
  /-- The cancel epoch and the state of each task. -/
  fences : List (Id × ℕ × TaskState)
  attempts : List AttemptRecord
  permits : List PermitRecord
  tokens : List IssuedPermit
  slots : List SlotRecord
  history : List EffectHistoryEntry
  receipts : List TaskReceiptRecord
  plans : List ArtifactCommitPlanRecord
  publications : List (Id × NestedArtifactPublicationReceipt)

def TaskStore.ledger (s : TaskStore) : Ledger where
  heads := s.tasks.map fun t => (t.taskId, t.head)
  fences := s.tasks.map fun t => (t.taskId, t.cancelEpoch, t.state)
  attempts := s.attempts
  permits := s.permits
  tokens := s.effectPermits
  slots := s.slots
  history := s.history
  receipts := s.receipts
  plans := s.artifactPlans
  publications := s.publications

namespace Ledger

def Closed (l : Ledger) (taskId : Id) (logicalEffectId : Digest) : Prop :=
  ∃ entry ∈ l.history, entry.taskId = taskId ∧ entry.logicalEffectId = logicalEffectId ∧
    entry.outcome = .effectClosed

lemma closed_append {l : Ledger} :
    { l with history := l.history ++ entries }.Closed taskId effect ↔
      l.Closed taskId effect ∨ ∃ entry ∈ entries, entry.taskId = taskId ∧
        entry.logicalEffectId = effect ∧ entry.outcome = .effectClosed := by
  simp only [Closed, List.mem_append, or_and_right, exists_or]

end Ledger

/-- What a terminal receipt says about the slots of its permit and about the head. -/
def Truthful (slots : List SlotRecord) (receipt : TaskReceiptRecord) (permitId : Id) : Prop :=
  match receipt.outcome with
  | .committed =>
    receipt.new.commitSeq = receipt.prior.commitSeq + 1 ∧
      receipt.prior.retryFenceEpoch ≤ receipt.new.retryFenceEpoch
  | .partialEffect | .failedAfterEffect =>
    receipt.new.commitSeq = receipt.prior.commitSeq + 1 ∧
      receipt.new.retryFenceEpoch = receipt.prior.retryFenceEpoch + 1 ∧
      ∃ slot ∈ slots, slot.permitId = permitId ∧ slot.state = .effectClosed
  | .failedBeforeEffect | .cancelledBeforeEffect =>
    receipt.new = receipt.prior ∧
      ∀ slot ∈ slots, slot.permitId = permitId →
        slot.state = .noEffect ∨ slot.state = .confirmedNoEffect

namespace Truthful

variable {slots slots' : List SlotRecord} {receipt : TaskReceiptRecord} {permitId : Id}

lemma congr (hslots : ∀ slot, slot.permitId = permitId → (slot ∈ slots' ↔ slot ∈ slots))
    (h : Truthful slots receipt permitId) : Truthful slots' receipt permitId := by
  unfold Truthful at h ⊢
  cases houtcome : receipt.outcome with
  | committed => simpa only [houtcome] using h
  | partialEffect | failedAfterEffect =>
    simp only [houtcome] at h ⊢
    obtain ⟨hseq, hfence, slot, hslot, hpermit, hstate⟩ := h
    exact ⟨hseq, hfence, slot, (hslots slot hpermit).mpr hslot, hpermit, hstate⟩
  | failedBeforeEffect | cancelledBeforeEffect =>
    simp only [houtcome] at h ⊢
    refine ⟨h.1, ?_⟩
    intro slot hslot hpermit
    exact h.2 slot ((hslots slot hpermit).mp hslot) hpermit

/-- A truthful receipt leaves the head or commits once. -/
lemma head_step (h : Truthful slots receipt permitId) : receipt.new = receipt.prior ∨
      (receipt.new.commitSeq = receipt.prior.commitSeq + 1 ∧
        receipt.prior.retryFenceEpoch ≤ receipt.new.retryFenceEpoch) := by
  unfold Truthful at h
  cases houtcome : receipt.outcome with
  | committed => exact .inr (by simpa only [houtcome] using h)
  | partialEffect | failedAfterEffect =>
    simp only [houtcome] at h
    exact .inr ⟨h.1, by omega⟩
  | failedBeforeEffect | cancelledBeforeEffect =>
    simp only [houtcome] at h
    exact .inl h.1

end Truthful

/-- Receipts that lead from one head to another, each from where the one before it ended. -/
def Linked : Head → List TaskReceiptRecord → Head → Prop
  | start, [], finish => start = finish
  | start, receipt :: rest, finish =>
    receipt.prior = start ∧ receipt.new.commitSeq = start.commitSeq + 1 ∧
      start.retryFenceEpoch ≤ receipt.new.retryFenceEpoch ∧ Linked receipt.new rest finish

lemma Linked.snoc (h : Linked start receipts finish)
    (hprior : receipt.prior = finish) (hseq : receipt.new.commitSeq = receipt.prior.commitSeq + 1)
    (hfence : receipt.prior.retryFenceEpoch ≤ receipt.new.retryFenceEpoch) :
    Linked start (receipts ++ [receipt]) receipt.new := by
  induction receipts generalizing start with
  | nil =>
    cases h
    exact ⟨hprior, hprior ▸ hseq, hprior ▸ hfence, rfl⟩
  | cons first rest ih =>
    obtain ⟨hfirst, hfirstSeq, hfirstFence, hrest⟩ := h
    exact ⟨hfirst, hfirstSeq, hfirstFence, ih hrest⟩

/-- The receipts of a task that move its head. -/
def advancing (taskId : Id) (receipts : List TaskReceiptRecord) : List TaskReceiptRecord :=
  receipts.filter fun r => r.taskId = taskId ∧ r.new ≠ r.prior

lemma advancing_append_of_not
    (h : receipt.taskId ≠ taskId ∨ receipt.new = receipt.prior) :
    advancing taskId (receipts ++ [receipt]) = advancing taskId receipts := by
  have hfalse : ¬ (receipt.taskId = taskId ∧ receipt.new ≠ receipt.prior) := by tauto
  simp [advancing, hfalse]

/-- What a change is remembered for. -/
inductive Mark where
  | quiet
  /-- A slot or the state of the permit. -/
  | touched (permitId : Id)
  | planMoved (permitId : Id)
  | dispatched (slot : Id × ℕ)
  | reconciled (slot : Id × ℕ) (outcome : ReconcileOutcome)
  | terminated (permitId : Id)
  | planCommitted (permitId planId : Id)
deriving DecidableEq

/-- The transitions of a slot under the permit `p`, with the history entries they write. -/
inductive SlotMove (l : Ledger) (p : PermitRecord) (slot : SlotRecord) :
    SlotState → List EffectHistoryEntry → Mark → Prop
  | permitted : slot.state = .planned → ¬ l.Closed p.taskId slot.logicalEffectId →
      SlotMove l p slot .permitted [] (.touched p.permitId)
  | dispatched {token : IssuedPermit} {state : TaskState} : slot.state = .permitted →
      p.state = .issued → token ∈ l.tokens → token.taskId = p.taskId →
      (p.taskId, token.cancelEpoch, state) ∈ l.fences →
      SlotMove l p slot .dispatched [] (.dispatched slot.key)
  | noEffect : slot.state = .planned ∨ slot.state = .permitted →
      SlotMove l p slot .noEffect [] (.touched p.permitId)
  | closed {entry : EffectHistoryEntry} : slot.state = .dispatched → entry.taskId = p.taskId →
      entry.logicalEffectId = slot.logicalEffectId → entry.outcome = .effectClosed →
      SlotMove l p slot .effectClosed [entry] (.touched p.permitId)
  | unknown : slot.state = .dispatched → SlotMove l p slot .effectUnknown [] (.touched p.permitId)
  | reconciling : slot.state = .effectUnknown →
      SlotMove l p slot .reconciling [] (.touched p.permitId)
  | resolvedClosed {entry : EffectHistoryEntry} : slot.state = .reconciling →
      entry.taskId = p.taskId → entry.logicalEffectId = slot.logicalEffectId →
      entry.outcome = .effectClosed →
      SlotMove l p slot .effectClosed [entry] (.reconciled slot.key .effectClosed)
  | resolvedNoEffect {entry : EffectHistoryEntry} : slot.state = .reconciling →
      entry.outcome = .confirmedNoEffect →
      SlotMove l p slot .confirmedNoEffect [entry] (.reconciled slot.key .confirmedNoEffect)
  | unresolved : slot.state = .reconciling →
      SlotMove l p slot .effectUnknown [] (.reconciled slot.key .effectUnknown)

def movePermit (permitId : Id) (old new : PermitState) (permits : List PermitRecord) :
    List PermitRecord :=
  updateRows (fun p => p.permitId = permitId ∧ p.state = old) (fun p => { p with state := new })
    permits

def moveSlot (slot : SlotRecord) (target : SlotState) (effectPermitId effectReceiptId : Option Id)
    (slots : List SlotRecord) : List SlotRecord :=
  updateRows (fun r => r.key = slot.key ∧ r.state = slot.state ∧ r.stateSeq = slot.stateSeq)
    (fun r => r.moved target effectPermitId effectReceiptId) slots

def bindSlot (slot : SlotRecord) (binding : Id) (generation : ℕ) (slots : List SlotRecord) :
    List SlotRecord :=
  updateRows slot.Unbound (·.bound binding generation) slots

def setHead (taskId : Id) (head : Head) (heads : List (Id × Head)) : List (Id × Head) :=
  updateRows (fun row => row.1 = taskId) (fun row => (row.1, head)) heads

def setFence (taskId : Id) (cancelEpoch : ℕ) (fences : List (Id × ℕ × TaskState)) :
    List (Id × ℕ × TaskState) :=
  updateRows (fun row => row.1 = taskId) (fun row => (row.1, cancelEpoch, .cancelled)) fences

def moveAttempt (attempt : AttemptRecord) (state : AttemptState) (receiptId : Option Id)
    (attempts : List AttemptRecord) : List AttemptRecord :=
  updateRows (fun a => a.attemptId = attempt.attemptId ∧ a.state = attempt.state)
    (fun a => { a with state := state, receiptId := receiptId }) attempts

def AttemptState.isEnded : AttemptState → Bool
  | committed | failed | cancelled => true
  | _ => false

def movePlan (planId : Id) (old new : ArtifactCommitPlanState)
    (plans : List ArtifactCommitPlanRecord) : List ArtifactCommitPlanRecord :=
  updateRows (fun q => q.planId = planId ∧ q.state = old) (fun q => { q with state := new }) plans

def commitPlan (planId receiptId : Id) (plans : List ArtifactCommitPlanRecord) :
    List ArtifactCommitPlanRecord :=
  updateRows (fun q => q.planId = planId ∧ q.state = .ready ∧ q.taskReceiptId = none)
    (fun q => { q with state := .finalized, taskReceiptId := some receiptId }) plans

/-- The permit `p` of `attempt` ends with `receipt`: it is issued, its slots are settled, and the
receipt starts from the current head and tells the truth about both. -/
structure Termination (l : Ledger) (p : PermitRecord) (attempt : AttemptRecord)
    (receipt : TaskReceiptRecord) : Prop where
  mem : p ∈ l.permits
  attempt_mem : attempt ∈ l.attempts
  attempt_taskId : attempt.taskId = p.taskId
  attempt_id : attempt.attemptId = p.attemptId
  receipt_attempt : receipt.attemptId = attempt.attemptId
  issued : p.state = .issued
  fresh : ∀ r ∈ l.receipts, r.receiptId ≠ receipt.receiptId
  permitId : receipt.permitId = some p.permitId
  taskId : receipt.taskId = p.taskId
  head : (p.taskId, receipt.prior) ∈ l.heads
  settled : ∀ slot ∈ l.slots, slot.permitId = p.permitId → slot.state.blocksFinalization = false
  truthful : Truthful l.slots receipt p.permitId

inductive PlanClosing (l : Ledger) (permitId : Id) (receipt : TaskReceiptRecord) :
    List ArtifactCommitPlanRecord → Mark → Prop
  | untouched : PlanClosing l permitId receipt l.plans (.terminated permitId)
  | committed {plan : ArtifactCommitPlanRecord} : plan ∈ l.plans → plan.permitId = permitId →
      plan.state = .ready → receipt.outcome = .committed →
      (l.publications.filter fun row => row.1 = plan.planId).length = plan.expectations.length →
      PlanClosing l permitId receipt (commitPlan plan.planId receipt.receiptId l.plans)
        (.planCommitted permitId plan.planId)

/-- An attempt that is open closes without a permit and leaves `receipt`, which starts from the
current head and ends there. -/
structure Closure (l : Ledger) (attempt : AttemptRecord) (receipt : TaskReceiptRecord) : Prop where
  opened : attempt.state.isOpenCandidate = true
  found : ∃ a ∈ l.attempts, a.attemptId = attempt.attemptId ∧ a.state = attempt.state
  fresh : ∀ r ∈ l.receipts, r.receiptId ≠ receipt.receiptId
  attemptId : receipt.attemptId = attempt.attemptId
  permitId : receipt.permitId = none
  outcome : receipt.outcome = .cancelledBeforeEffect
  unchanged : receipt.new = receipt.prior
  head : (receipt.taskId, receipt.prior) ∈ l.heads

structure Issuance (l : Ledger) (attempt : AttemptRecord) (p : PermitRecord) : Prop where
  attempt_mem : attempt ∈ l.attempts
  opened : attempt.state.isOpenCandidate = true
  attempt_taskId : attempt.taskId = p.taskId
  attempt_id : attempt.attemptId = p.attemptId
  cancelEpoch : p.cancelEpoch = 0
  fence : ∃ state, (p.taskId, 0, state) ∈ l.fences

inductive Change : Ledger → Mark → Ledger → Prop
  | registered {l : Ledger} {taskId : Id} : (∀ row ∈ l.heads, row.1 ≠ taskId) →
      Change l .quiet
        { l with
          heads := l.heads ++ [(taskId, initialHead)]
          fences := l.fences ++ [(taskId, 0, .active)] }
  | cancelled {l : Ledger} {taskId : Id} {cancelEpoch : ℕ} : 0 < cancelEpoch →
      Change l .quiet { l with fences := setFence taskId cancelEpoch l.fences }
  | entered {l : Ledger} {attempt : AttemptRecord} {cancelEpoch : ℕ} :
      (∀ a ∈ l.attempts, a.attemptId ≠ attempt.attemptId) → attempt.state = .created →
      (attempt.taskId, cancelEpoch, .active) ∈ l.fences →
      Change l .quiet { l with attempts := l.attempts ++ [attempt] }
  /-- An attempt that loses the competition for the permit. -/
  | lost {l : Ledger} {attempt : AttemptRecord} {state : AttemptState} :
      attempt.state.isOpenCandidate = true →
      Change l .quiet { l with attempts := moveAttempt attempt state none l.attempts }
  | receipted {l : Ledger} {attempt : AttemptRecord} {receipt : TaskReceiptRecord} :
      Closure l attempt receipt →
      Change l .quiet
        { l with
          attempts := moveAttempt attempt .cancelled (some receipt.receiptId) l.attempts
          receipts := l.receipts ++ [receipt] }
  | tokened {l : Ledger} {token : IssuedPermit} {permitId : Id} :
      token.permitId = permitId → (∃ p ∈ l.permits, p.cancelEpoch = token.cancelEpoch) →
      (∃ state, (token.taskId, token.cancelEpoch, state) ∈ l.fences) →
      Change l (.touched permitId) { l with tokens := l.tokens ++ [token] }
  | issued {l : Ledger} {attempt : AttemptRecord} {p : PermitRecord} {slots : List SlotRecord} :
      Issuance l attempt p →
      (∀ q ∈ l.permits, q.permitId ≠ p.permitId) → p.state = .issued →
      (∀ q ∈ l.permits, q.taskId = p.taskId → q.state.isOutstanding = false) →
      (∀ slot ∈ slots, slot.permitId = p.permitId ∧ slot.taskId = p.taskId ∧
        slot.state = .planned) →
      Keyed SlotRecord.effectSeq slots → Keyed SlotRecord.logicalEffectId slots →
      Change l .quiet
        { l with
          attempts := moveAttempt attempt .commitPermitted none l.attempts
          permits := l.permits ++ [p]
          slots := l.slots ++ slots }
  | slotMoved {l : Ledger} {p : PermitRecord} {slot : SlotRecord} {target : SlotState}
      {entries : List EffectHistoryEntry} {mark : Mark}
      {effectPermitId effectReceiptId : Option Id} :
      p ∈ l.permits → p.state.isOutstanding = true → slot ∈ l.slots →
      slot.permitId = p.permitId → SlotMove l p slot target entries mark →
      Change l mark
        { l with
          slots := moveSlot slot target effectPermitId effectReceiptId l.slots
          history := l.history ++ entries }
  /-- A fiber is named for a slot before its effect is initiated. -/
  | bound {l : Ledger} {p : PermitRecord} {slot : SlotRecord} {binding : Id} {generation : ℕ} :
      p ∈ l.permits → p.state.isOutstanding = true → slot.permitId = p.permitId →
      slot.state = .planned ∨ slot.state = .permitted →
      Change l (.touched p.permitId) { l with slots := bindSlot slot binding generation l.slots }
  /-- A permit enters or leaves quarantine. -/
  | held {l : Ledger} {permitId : Id} {old new : PermitState} :
      old.isOutstanding = true → new.isOutstanding = true →
      Change l (.touched permitId) { l with permits := movePermit permitId old new l.permits }
  /-- History entries other than closures. -/
  | noted {l : Ledger} {entries : List EffectHistoryEntry} :
      (∀ entry ∈ entries, entry.outcome ≠ .effectClosed) →
      Change l .quiet { l with history := l.history ++ entries }
  | terminated {l : Ledger} {p : PermitRecord} {attempt : AttemptRecord}
      {receipt : TaskReceiptRecord} {state : AttemptState}
      {plans : List ArtifactCommitPlanRecord} {mark : Mark} :
      Termination l p attempt receipt → state.isEnded = true →
      PlanClosing l p.permitId receipt plans mark →
      Change l mark
        { l with
          heads := setHead p.taskId receipt.new l.heads
          attempts := moveAttempt attempt state (some receipt.receiptId) l.attempts
          permits := movePermit p.permitId .issued .closed l.permits
          receipts := l.receipts ++ [receipt]
          plans := plans }
  | planned {l : Ledger} {plan : ArtifactCommitPlanRecord} :
      (∀ q ∈ l.plans, q.planId ≠ plan.planId ∧ q.permitId ≠ plan.permitId) →
      plan.state = .planned → plan.taskReceiptId = none →
      (∃ p ∈ l.permits, p.permitId = plan.permitId ∧ p.state = .issued) →
      Change l (.planMoved plan.permitId) { l with plans := l.plans ++ [plan] }
  | authorized {l : Ledger} {plan : ArtifactCommitPlanRecord} :
      plan ∈ l.plans → plan.state = .planned →
      (∃ p ∈ l.permits, p.permitId = plan.permitId ∧ p.state = .issued) →
      Change l (.planMoved plan.permitId)
        { l with plans := movePlan plan.planId .planned .publishing l.plans }
  | published {l : Ledger} {plan : ArtifactCommitPlanRecord} {state : ArtifactCommitPlanState}
      {rows : List (Id × NestedArtifactPublicationReceipt)} :
      plan ∈ l.plans → plan.state = .publishing ∨ plan.state = .ready →
      state = .publishing ∨ state = .ready →
      (∀ row ∈ rows, row.1 = plan.planId ∧ row.2.permitId = plan.permitId) →
      Change l (.planMoved plan.permitId)
        { l with
          plans := movePlan plan.planId plan.state state l.plans
          publications := l.publications ++ rows }

inductive Changes : Ledger → List Mark → Ledger → Prop
  | refl {l : Ledger} : Changes l [] l
  | snoc {l l' l'' : Ledger} {marks : List Mark} {mark : Mark} :
      Changes l marks l' → Change l' mark l'' → Changes l (marks ++ [mark]) l''

namespace Changes

variable {l l' l'' : Ledger} {marks marks' : List Mark} {mark : Mark}

lemma single (h : Change l mark l') : Changes l [mark] l' := by
  simpa using Changes.refl.snoc h

lemma trans (h : Changes l marks l') (h' : Changes l' marks' l'') :
    Changes l (marks ++ marks') l'' := by
  induction h' with
  | refl => simpa using h
  | snoc _ hlast ih => simpa using ih.snoc hlast

/-- An invariant of the ledger: what every change preserves. -/
lemma invariant {P : Ledger → Prop}
    (hstep : ∀ {a b m}, P a → Change a m b → P b) (h : Changes l marks l') (hl : P l) : P l' := by
  induction h with
  | refl => exact hl
  | snoc _ hlast ih => exact hstep ih hlast

end Changes

end Nlos.Task
