import Nlos.Task.AttemptSound
import Nlos.Task.Dispatch

/-!
# Cancellation of a task

Permits and tokens are only ever issued under cancel epoch zero, and a cancellation moves the task
to a later epoch for good.
-/

namespace Nlos.Task

open Lib List TaskStore

/-- `l` still respects a cancellation of the task made from `l₀`. -/
structure FencedFrom (taskId : Id) (l₀ l : Ledger) : Prop where
  fence : ∃ n, 0 < n ∧ (taskId, n, .cancelled) ∈ l.fences
  permits : ∀ p ∈ l.permits, p.taskId = taskId →
    ∃ q ∈ l₀.permits, q.permitId = p.permitId ∧ q.taskId = taskId
  tokens : ∀ token ∈ l.tokens, token.taskId = taskId → token ∈ l₀.tokens
  attempts : ∀ a ∈ l.attempts, a.taskId = taskId →
    ∃ b ∈ l₀.attempts, b.attemptId = a.attemptId ∧ b.taskId = taskId

def Ledger.CancelledAt (l : Ledger) (taskId attemptId : Id) (head : Head) : Prop :=
  ∃ r ∈ l.receipts, r.taskId = taskId ∧ r.attemptId = attemptId ∧ r.permitId = none ∧
    r.outcome = .cancelledBeforeEffect ∧ r.prior = head ∧ r.new = head ∧
    ∃ a ∈ l.attempts, a.attemptId = attemptId ∧ a.state = .cancelled ∧
      a.receiptId = some r.receiptId

section Change

variable {l₀ l l' : Ledger} {mark : Mark} {taskId attemptId : Id} {head : Head}

lemma FencedFrom.ne_zero (h : FencedFrom taskId l₀ l) (hl : l.Sound) (ha : l.Attended)
    (hfence : (taskId, n, state) ∈ l.fences) : n ≠ 0 ∧ state = .cancelled := by
  obtain ⟨m, hpos, hm⟩ := h.fence
  obtain ⟨rfl, rfl⟩ := ha.fence_eq hl hfence hm
  exact ⟨Nat.pos_iff_ne_zero.mp hpos, rfl⟩

lemma fence_of_setFence {id epoch fences}
    (hepoch : 0 < epoch) (h : ∃ n, 0 < n ∧ (taskId, n, TaskState.cancelled) ∈ fences) :
    ∃ n, 0 < n ∧ (taskId, n, TaskState.cancelled) ∈ setFence id epoch fences := by
  obtain ⟨n, hn, hmem⟩ := h
  by_cases hid : taskId = id
  · exact ⟨epoch, hepoch, mem_updateRows.mpr (.inr ⟨_, hmem, hid, rfl⟩)⟩
  · exact ⟨n, hn, mem_updateRows.mpr (.inl ⟨hmem, hid⟩)⟩

lemma FencedFrom.moved (h : FencedFrom taskId l₀ l)
    (hmem : a ∈ moveAttempt attempt state receiptId l.attempts) (htask : a.taskId = taskId) :
    ∃ b ∈ l₀.attempts, b.attemptId = a.attemptId ∧ b.taskId = taskId := by
  obtain ⟨b, hb, hid, hbtask⟩ := exists_of_mem_moveAttempt hmem
  obtain ⟨c, hc, hcid, hctask⟩ := h.attempts b hb (hbtask.trans htask)
  exact ⟨c, hc, hcid.trans hid, hctask⟩

lemma FencedFrom.movedPermit (h : FencedFrom taskId l₀ l)
    (hmem : p ∈ movePermit permitId old new l.permits) (htask : p.taskId = taskId) :
    ∃ q ∈ l₀.permits, q.permitId = p.permitId ∧ q.taskId = taskId := by
  obtain ⟨q, hq, hid, hqtask, -⟩ := mem_movePermit hmem
  obtain ⟨r, hr, hrid, hrtask⟩ := h.permits q hq (hqtask.symm.trans htask)
  exact ⟨r, hr, hrid.trans hid.symm, hrtask⟩

lemma Change.fencedFrom (hchange : Change l mark l') (hl : l.Sound) (ha : l.Attended)
    (h : FencedFrom taskId l₀ l) : FencedFrom taskId l₀ l' := by
  cases hchange with
  | registered =>
    obtain ⟨n, hn, hmem⟩ := h.fence
    exact { h with fence := ⟨n, hn, mem_append_left _ hmem⟩ }
  | cancelled hepoch => exact { h with fence := fence_of_setFence hepoch h.fence }
  | entered _ _ hactive =>
    refine { h with attempts := ?_ }
    -- a new attempt needs the task to be active
    refine forall_mem_append.mpr ⟨h.attempts, forall_mem_singleton.mpr fun htask => ?_⟩
    rw [htask] at hactive
    cases (h.ne_zero hl ha hactive).2
  | lost | receipted => exact { h with attempts := fun a hmem htask => h.moved hmem htask }
  | @tokened token _ _ hpermit hfence =>
    refine { h with tokens := ?_ }
    refine forall_mem_append.mpr ⟨h.tokens, forall_mem_singleton.mpr fun htask => ?_⟩
    obtain ⟨p, hp, hepoch⟩ := hpermit
    obtain ⟨state, hfence⟩ := hfence
    rw [htask, ← hepoch, ha.permit_epoch p hp] at hfence
    exact absurd rfl (h.ne_zero hl ha hfence).1
  | @issued attempt p slots hissuance =>
    refine { h with attempts := fun a hmem htask => h.moved hmem htask, permits := ?_ }
    refine forall_mem_append.mpr ⟨h.permits, forall_mem_singleton.mpr fun htask => ?_⟩
    obtain ⟨state, hfence⟩ := hissuance.fence
    rw [htask] at hfence
    exact absurd rfl (h.ne_zero hl ha hfence).1
  | held => exact { h with permits := fun p hmem htask => h.movedPermit hmem htask }
  | terminated =>
    exact
      { h with
        attempts := fun a hmem htask => h.moved hmem htask
        permits := fun p hmem htask => h.movedPermit hmem htask }
  | slotMoved | bound | noted | planned | authorized | published => exact { h with }

lemma Change.ne_of_dispatched (hchange : Change l (.dispatched slot.key) l')
    (hl : l.Sound) (ha : l.Attended) (h : FencedFrom taskId l₀ l) (hslot : slot ∈ l.slots) :
    slot.taskId ≠ taskId := by
  generalize hmark : Mark.dispatched slot.key = mark at hchange
  cases hchange with
  | @slotMoved p moved _ _ _ _ _ hp _ hmoved hpermit hmove =>
    cases hmove with
    | @dispatched token state _ _ htoken _ hfence =>
      obtain rfl := hl.slots.eq hslot hmoved (Mark.dispatched.inj hmark)
      obtain ⟨q, hq, hqid, hqtask⟩ := hl.slot_permit slot hslot
      obtain rfl := hl.permits.eq hq hp (hqid.trans hpermit)
      rintro rfl
      rw [ha.token_epoch token htoken, hqtask] at hfence
      exact (h.ne_zero hl ha hfence).1 rfl
    | permitted | noEffect | closed | unknown | reconciling | resolvedClosed | resolvedNoEffect
    | unresolved => cases hmark
  | terminated _ _ hclosing => cases hclosing <;> cases hmark
  | registered | cancelled | entered | lost | receipted | tokened | issued | bound | held | noted
  | planned | authorized | published => cases hmark

lemma Change.cancelledAt (hchange : Change l mark l') (ha : l.Attended)
    (h : l.CancelledAt taskId attemptId head) : l'.CancelledAt taskId attemptId head := by
  obtain ⟨r, hr, htask, hid, hpermit, houtcome, hprior, hnew, a, hmem, haid, hstate, hreceipt⟩ := h
  have hkept := hchange.keeps_ended ha hmem (by rw [hstate]; rfl)
  exact ⟨r, hchange.receipts_subset hr, htask, hid, hpermit, houtcome, hprior, hnew, a, hkept,
    haid, hstate, hreceipt⟩

lemma Ledger.CancelledAt.countP_eq_one (h : l.CancelledAt taskId attemptId head) (hl : l.Sound)
    (ha : l.Attended) : l.receipts.countP (fun r => r.attemptId = attemptId) = 1 := by
  obtain ⟨r, hr, -, hid, -⟩ := h
  refine le_antisymm (hl.receipts.countP_le_one ?_) ?_
  · intro r₁ hr₁ r₂ hr₂ h₁ h₂
    obtain ⟨a₁, ha₁, hid₁, hreceipt₁, -⟩ := ha.receipt_attempt r₁ hr₁
    obtain ⟨a₂, ha₂, hid₂, hreceipt₂, -⟩ := ha.receipt_attempt r₂ hr₂
    have hsame : r₁.attemptId = r₂.attemptId :=
      (of_decide_eq_true h₁).trans (of_decide_eq_true h₂).symm
    -- both are the receipt of one attempt row
    obtain rfl := ha.attempts.eq ha₁ ha₂ (hid₁.trans (hsame.trans hid₂.symm))
    exact hl.receipts.eq hr₁ hr₂ (Option.some.inj (hreceipt₁.symm.trans hreceipt₂))
  · exact countP_pos_iff.mpr ⟨r, hr, decide_eq_true hid⟩

end Change

namespace TaskStore

variable {s t : TaskStore}

lemma closeAttempts_kept {task cancelEpoch attempts closed}
    (hhead : (task.taskId, task.head) ∈ s.ledger.heads)
    (hopen : ∀ attempt ∈ attempts, attempt.state.isOpenCandidate = true)
    (h : closeAttempts task cancelEpoch attempts s = .ok (t, closed)) :
    t.ledger.heads = s.ledger.heads ∧ t.ledger.fences = s.ledger.fences ∧
      t.ledger.permits = s.ledger.permits ∧ t.ledger.tokens = s.ledger.tokens ∧
      ∀ a ∈ t.ledger.attempts, ∃ b ∈ s.ledger.attempts,
        b.attemptId = a.attemptId ∧ b.taskId = a.taskId := by
  induction attempts generalizing s closed with
  | nil =>
    cases h
    exact ⟨rfl, rfl, rfl, rfl, fun a hmem => ⟨a, hmem, rfl, rfl⟩⟩
  | cons attempt rest ih =>
    simp only [closeAttempts, bind_eq_ok, pure_eq_ok, Prod.exists, Prod.mk.injEq] at h
    obtain ⟨s', receiptId, hclose, t', others, hrest, rfl, -⟩ := h
    obtain ⟨-, hledger⟩ := closeAttempt_spec hhead (hopen attempt mem_cons_self) hclose
    have hhead' : (task.taskId, task.head) ∈ s'.ledger.heads := by
      rw [hledger]
      exact hhead
    obtain ⟨hheads, hfences, hpermits, htokens, hback⟩ := ih hhead'
      (fun other hother => hopen other (mem_cons_of_mem _ hother)) hrest
    rw [hledger] at hheads hfences hpermits htokens hback
    refine ⟨hheads, hfences, hpermits, htokens, ?_⟩
    intro a hmem
    obtain ⟨b, hb, hid, htask⟩ := hback a hmem
    obtain ⟨c, hc, hcid, hctask⟩ := exists_of_mem_moveAttempt hb
    exact ⟨c, hc, hcid.trans hid, hctask.trans htask⟩

lemma closeAttempts_cancelledAt {task cancelEpoch attempts closed} (hsound : s.ledger.Sound)
    (hattended : s.ledger.Attended) (hhead : (task.taskId, task.head) ∈ s.ledger.heads)
    (hopen : ∀ attempt ∈ attempts, attempt.state.isOpenCandidate = true)
    (h : closeAttempts task cancelEpoch attempts s = .ok (t, closed)) :
    ∀ attempt ∈ attempts, t.ledger.CancelledAt task.taskId attempt.attemptId task.head := by
  induction attempts generalizing s closed with
  | nil => simp
  | cons attempt rest ih =>
    simp only [closeAttempts, bind_eq_ok, pure_eq_ok, Prod.exists, Prod.mk.injEq] at h
    obtain ⟨s', receiptId, hclose, t', others, hrest, rfl, -⟩ := h
    have hopened := hopen attempt mem_cons_self
    have hopenRest : ∀ other ∈ rest, other.state.isOpenCandidate = true :=
      fun other hother => hopen other (mem_cons_of_mem _ hother)
    obtain ⟨hclosure, hledger⟩ := closeAttempt_spec hhead hopened hclose
    obtain ⟨hsteps, hheads⟩ := closeAttempt_steps hhead hopened hclose
    have hsound' := hsteps.sound hsound
    have hattended' := hsteps.attended hsound hattended
    have hhead' : (task.taskId, task.head) ∈ s'.ledger.heads := by
      rw [hheads]
      exact hhead
    have hfirst : s'.ledger.CancelledAt task.taskId attempt.attemptId task.head := by
      obtain ⟨a, hmem, hid, hstate⟩ := hclosure.found
      rw [hledger]
      exact ⟨_, mem_append_right _ (mem_singleton_self _), rfl, rfl, rfl, rfl, rfl, rfl,
        _, mem_moveAttempt_self hmem hid hstate, hid, rfl, rfl⟩
    intro other hother
    rcases mem_cons.mp hother with rfl | hother
    · -- the closures that follow keep the first one
      have hrestSteps := closeAttempts_steps hhead' hopenRest hrest
      exact (hrestSteps.attended_invariant (fun _ ha hat hchange => hchange.cancelledAt ha hat)
        hsound' hattended' hfirst).2.2
    · exact ih hsound' hattended' hhead' hopenRest hrest other hother

lemma cancelTask_applied {taskId key cancelEpoch closed}
    (hsound : s.ledger.Sound) (hattended : s.ledger.Attended)
    (h : s.cancelTask taskId key = .ok (t, .applied cancelEpoch closed)) :
    FencedFrom taskId s.ledger t.ledger ∧ t.ledger.heads = s.ledger.heads ∧
      ∃ head, (taskId, head) ∈ s.ledger.heads ∧
        ∀ a ∈ s.attempts, a.taskId = taskId → a.state.isOpenCandidate = true →
          t.ledger.CancelledAt taskId a.attemptId head := by
  simp only [cancelTask, bind_eq_ok] at h
  obtain ⟨task, htask, h⟩ := h
  split at h
  · simp only [pure_eq_ok, Prod.mk.injEq] at h
    obtain ⟨-, h⟩ := h
    split at h <;> cases h
  · simp only [bind_eq_ok, pure_eq_ok, orRefuse_eq_ok, checkedSucc_eq_some, Prod.exists,
      Prod.mk.injEq] at h
    obtain ⟨epoch, ⟨-, hepoch⟩, controlEpoch, -, s', closed', hclose, rfl, -⟩ := h
    obtain ⟨-, hid⟩ := mem_of_loadTask htask
    have hhead := head_of_loadTask htask
    have hfence := fence_of_loadTask htask
    have hopen : ∀ attempt ∈ s.listOpenAttempts taskId, attempt.state.isOpenCandidate = true :=
      fun attempt hattempt => (mem_listOpenAttempts.mp hattempt).2.2
    obtain ⟨hheads, hfences, hpermits, htokens, hback⟩ :=
      closeAttempts_kept (hid ▸ hhead) hopen hclose
    have hcancelled := closeAttempts_cancelledAt hsound hattended (hid ▸ hhead) hopen hclose
    -- the row that records the cancellation is outside the ledger
    suffices hfinal : ∀ l : Ledger,
        l = { s'.ledger with fences := setFence taskId epoch s'.ledger.fences } →
        FencedFrom taskId s.ledger l ∧ l.heads = s.ledger.heads ∧
          ∃ head, (taskId, head) ∈ s.ledger.heads ∧
            ∀ a ∈ s.attempts, a.taskId = taskId → a.state.isOpenCandidate = true →
              l.CancelledAt taskId a.attemptId head from hfinal _ ledger_updateTask_cancel
    rintro l rfl
    refine ⟨⟨?_, ?_, ?_, ?_⟩, hheads, task.head, hhead, ?_⟩
    · refine ⟨epoch, hepoch ▸ Nat.succ_pos _, mem_updateRows.mpr (.inr ?_)⟩
      rw [hfences]
      exact ⟨_, hfence, rfl, rfl⟩
    · intro p hp htaskId
      rw [hpermits] at hp
      exact ⟨p, hp, rfl, htaskId⟩
    · intro token htoken _
      rw [htokens] at htoken
      exact htoken
    · intro a hmem htaskId
      obtain ⟨b, hb, hbid, hbtask⟩ := hback a hmem
      exact ⟨b, hb, hbid, hbtask.trans htaskId⟩
    · intro a hmem htaskId hstate
      rw [← hid]
      exact hcancelled a (mem_listOpenAttempts.mpr ⟨hmem, htaskId, hstate⟩)

end TaskStore

/-- What a cancellation fixed stays so in every later state. -/
lemma fencedFrom_of_run (hrun : Run step t h s) (hsound : t.ledger.Sound)
    (hattended : t.ledger.Attended) (hfenced : FencedFrom taskId l₀ t.ledger) :
    s.ledger.Sound ∧ s.ledger.Attended ∧ FencedFrom taskId l₀ s.ledger :=
  attended_invariant_of_run (fun hl ha hkept hchange => hchange.fencedFrom hl ha hkept) hrun hsound
    hattended hfenced

/-- A cancelled attempt keeps its state and its receipt. -/
lemma cancelledAt_of_run {t s h taskId attemptId head} (hrun : Run step t h s)
    (hsound : t.ledger.Sound) (hattended : t.ledger.Attended)
    (hat : t.ledger.CancelledAt taskId attemptId head) :
    s.ledger.Sound ∧ s.ledger.Attended ∧ s.ledger.CancelledAt taskId attemptId head :=
  attended_invariant_of_run (fun _ ha hkept hchange => hchange.cancelledAt ha hkept) hrun hsound
    hattended hat

lemma Consumes.ne_of_fencedFrom (h : Consumes e slot)
    (hstep : e.pre.step e.input = .ok (u, e.output)) (hsound : e.pre.ledger.Sound)
    (hattended : e.pre.ledger.Attended) (hfenced : FencedFrom taskId l₀ e.pre.ledger) :
    slot.taskId ≠ taskId := by
  obtain ⟨request, lease, hinput, houtput⟩ := h
  rw [hinput, houtput] at hstep
  obtain ⟨updated, hcall, hreply⟩ := transact_eq_ok.mp (Except.ok.inj hstep)
  cases hreply
  obtain ⟨hchange, -, ⟨old, hold, -, rfl⟩, -⟩ := consumeDispatchToken_spec hcall
  have hdispatch : Change e.pre.ledger (.dispatched old.key) u.ledger := hchange
  exact hdispatch.ne_of_dispatched hsound hattended hfenced hold

section Fence

variable {profile : ScaleProfile} {authorityId : Id}
  {h : List (Event TaskStore Operation Answer)} {s : TaskStore}

/-- After an applied cancellation of a task nothing is issued, registered or dispatched for it, and
each attempt it found open is cancelled with one receipt that leaves the head. -/
theorem cancelTask_fences (hrun : AuthorityRun profile authorityId h s) :
    ∀ h₁ e h₂ taskId key cancelEpoch closed, h = h₁ ++ e :: h₂ →
      e.input = .cancelTask taskId key → e.output = .ok (.cancel (.applied cancelEpoch closed)) →
      (∀ p ∈ s.permits, p.taskId = taskId →
        ∃ q ∈ e.pre.permits, q.permitId = p.permitId ∧ q.taskId = taskId) ∧
      (∀ token ∈ s.effectPermits, token.taskId = taskId → token ∈ e.pre.effectPermits) ∧
      (∀ e' ∈ h₂, ∀ slot, Consumes e' slot → slot.taskId ≠ taskId) ∧
      (∀ a ∈ s.attempts, a.taskId = taskId →
        ∃ b ∈ e.pre.attempts, b.attemptId = a.attemptId ∧ b.taskId = taskId) ∧
      (e.pre.call e.input).1.ledger.heads = e.pre.ledger.heads ∧
      ∃ head, (taskId, head) ∈ e.pre.ledger.heads ∧
        ∀ a ∈ e.pre.attempts, a.taskId = taskId → a.state.isOpenCandidate = true →
          s.ledger.CancelledAt taskId a.attemptId head ∧
          s.receipts.countP (fun r => r.attemptId = a.attemptId) = 1 := by
  rintro h₁ e h₂ taskId key cancelEpoch closed rfl hinput houtput
  obtain ⟨hrun₁, t, hstep, hrun₂⟩ := Run.split hrun
  have hsound := sound_of_run hrun₁
  have hattended := attended_of_run hrun₁
  have hsound' : t.ledger.Sound := hsound.of_run (.single hstep)
  have hattended' := (TaskStore.steps_of_step hsound hstep).attended hsound hattended
  have hpost : (e.pre.call e.input).1 = t := congrArg Prod.fst (Except.ok.inj hstep)
  have hcancel : e.pre.cancelTask taskId key = .ok (t, .applied cancelEpoch closed) := by
    rw [hinput, houtput] at hstep
    obtain ⟨decision, hcall, hreply⟩ := TaskStore.transact_eq_ok.mp (Except.ok.inj hstep)
    cases hreply
    exact hcall
  obtain ⟨hfenced, hheads, head, hhead, hclosed⟩ :=
    TaskStore.cancelTask_applied hsound hattended hcancel
  obtain ⟨-, -, hlast⟩ := fencedFrom_of_run hrun₂ hsound' hattended' hfenced
  refine ⟨hlast.permits, hlast.tokens, ?_, hlast.attempts, hpost ▸ hheads, head, hhead, ?_⟩
  · intro e' he' slot hconsumes
    obtain ⟨h₃, h₄, rfl⟩ := append_of_mem he'
    obtain ⟨hrun₃, u, hstep', -⟩ := hrun₂.split
    obtain ⟨hsound₃, hattended₃, hfenced₃⟩ := fencedFrom_of_run hrun₃ hsound' hattended' hfenced
    exact hconsumes.ne_of_fencedFrom hstep' hsound₃ hattended₃ hfenced₃
  · intro a hmem htask hopen
    obtain ⟨hsound₂, hattended₂, hat⟩ :=
      cancelledAt_of_run hrun₂ hsound' hattended' (hclosed a hmem htask hopen)
    exact ⟨hat, hat.countP_eq_one hsound₂ hattended₂⟩

end Fence

def cancelsFirst : Operation → Answer → Bool
  | .cancelTask taskId _, .ok (.cancel (.applied _ _)) => taskId = 1
  | _, _ => false

/-- A task is cancelled while its attempt is open. -/
theorem cancelTask_fences_open :
    ∃ h s, AuthorityRun Sample.profile 0 h s ∧ s.ledger.CancelledAt 1 3 initialHead ∧
      s.receipts.countP (fun r => r.attemptId = 3) = 1 := by
  have hrun : ∃ h s, AuthorityRun Sample.profile 0 h s ∧
      h.map Event.input = Sample.registering ++ [.cancelTask 1 7] ∧
      (h.any fun e => cancelsFirst e.input e.output &&
        e.pre.attempts.any (fun a => a.taskId = 1 ∧ a.attemptId = 3 ∧ a.state.isOpenCandidate) &&
        e.pre.ledger.heads.all fun row => row.2 = initialHead) = true :=
    exists_run_of_runCheck (f := TaskStore.step) (s := .empty Sample.profile 0) (by decide +kernel)
  obtain ⟨h, s, hrun, -, hcheck⟩ := hrun
  obtain ⟨e, he, hany⟩ := any_eq_true.mp hcheck
  simp only [Bool.and_eq_true] at hany
  obtain ⟨⟨hcancel, hattempt⟩, hheads⟩ := hany
  obtain ⟨a, hmem, ha⟩ := any_eq_true.mp hattempt
  obtain ⟨htask, hid, hopen⟩ := of_decide_eq_true ha
  obtain ⟨h₁, h₂, rfl⟩ := append_of_mem he
  unfold cancelsFirst at hcancel
  split at hcancel
  · next taskId key cancelEpoch closed hinput houtput =>
    obtain rfl := of_decide_eq_true hcancel
    obtain ⟨-, -, -, -, -, head, hhead, hclosed⟩ :=
      cancelTask_fences hrun h₁ e h₂ 1 key cancelEpoch closed rfl hinput houtput
    obtain ⟨hat, hcount⟩ := hclosed a hmem htask hopen
    have hinitial : head = initialHead := of_decide_eq_true (all_eq_true.mp hheads _ hhead)
    rw [hid] at hat hcount
    exact ⟨_, s, hrun, hinitial ▸ hat, hcount⟩
  · cases hcancel

end Nlos.Task
