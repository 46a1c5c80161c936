import Nlos.Task.Refine

/-!
# One winner per task, one dispatch per effect

A task has at most one outstanding permit, its receipts form one chain of heads, and the token of
a logical effect is consumed a second time only after the first dispatch was reconciled to have
had no effect.
-/

namespace Nlos.Task

open Lib TaskStore

variable {slot : SlotRecord} {l : Ledger} {t : TaskStore}

variable {profile : ScaleProfile} {authorityId : Id}
  {h : List (Event TaskStore Operation Answer)} {s : TaskStore}

/-- At most one permit of a task is outstanding, a permit has at most one terminal receipt, and
the receipts that advance the head of a task lead from the initial head to the current one, each
from where the one before it ended. -/
theorem single_winner_linear_head (hrun : AuthorityRun profile authorityId h s) :
    (∀ taskId, s.permits.countP (fun p => p.taskId = taskId ∧ p.state.isOutstanding) ≤ 1) ∧
      (∀ permitId, s.receipts.countP (fun r => r.permitId = some permitId) ≤ 1) ∧
      ∀ task ∈ s.tasks, Linked initialHead (advancing task.taskId s.receipts) task.head := by
  have hsound := sound_of_run hrun
  refine ⟨?_, ?_, ?_⟩
  · intro taskId
    refine hsound.permits.countP_le_one ?_
    intro p hp q hq hpTask hqTask
    simp only [Bool.decide_and, Bool.decide_eq_true, Bool.and_eq_true,
      decide_eq_true_eq] at hpTask hqTask
    refine hsound.permits.eq hp hq ?_
    exact hsound.one_outstanding p hp q hq hpTask.2 hqTask.2 (hpTask.1.trans hqTask.1.symm)
  · intro permitId
    refine hsound.receipts.countP_le_one ?_
    intro r hr r' hr' hid hid'
    exact hsound.receipt_once r hr r' hr' permitId (of_decide_eq_true hid) (of_decide_eq_true hid')
  · intro task htask
    exact hsound.chain (task.taskId, task.head) (List.mem_map_of_mem htask)

/-- The run that commits a plan has advanced its head once. -/
theorem single_winner_linear_head_committing :
    ∃ h s, AuthorityRun Sample.profile 0 h s ∧ (∃ receipt, receipt ∈ s.receipts) ∧
      ∀ task ∈ s.tasks, Linked initialHead (advancing task.taskId s.receipts) task.head := by
  obtain ⟨h, s, hrun, -, hcheck⟩ := Sample.exists_committing
  obtain ⟨-, -, -, receipt, hreceipt, -⟩ := of_decide_eq_true hcheck
  exact ⟨h, s, hrun, ⟨receipt, hreceipt⟩, (single_winner_linear_head hrun).2.2⟩

def SlotState.isConsumed : SlotState → Bool
  | dispatched | effectUnknown | reconciling | effectClosed | confirmedNoEffect => true
  | _ => false

/-- What becomes of a consumed slot: it stays consumed, and only a reconciliation confirms that it
had no effect. -/
def Follows (marks : List Mark) (slot slot' : SlotRecord) : Prop :=
  slot'.key = slot.key ∧ slot'.taskId = slot.taskId ∧
    slot'.logicalEffectId = slot.logicalEffectId ∧ slot'.state.isConsumed = true ∧
    (slot'.state = .confirmedNoEffect →
      slot.state = .confirmedNoEffect ∨ .reconciled slot.key .confirmedNoEffect ∈ marks)

lemma Follows.refl (h : slot.state.isConsumed = true) : Follows [] slot slot :=
  ⟨rfl, rfl, rfl, h, .inl⟩

lemma Follows.trans
    (h : Follows marks slot slot') (h' : Follows marks' slot' slot'') :
    Follows (marks ++ marks') slot slot'' := by
  obtain ⟨hkey, htask, heffect, -, hconfirmed⟩ := h
  obtain ⟨hkey', htask', heffect', hconsumed, hconfirmed'⟩ := h'
  refine ⟨hkey'.trans hkey, htask'.trans htask, heffect'.trans heffect, hconsumed, ?_⟩
  intro hstate
  rcases hconfirmed' hstate with hstate' | hmark
  · rcases hconfirmed hstate' with hold | hmark
    · exact .inl hold
    · exact .inr (List.mem_append_left _ hmark)
  · rw [hkey] at hmark
    exact .inr (List.mem_append_right _ hmark)

lemma SlotMove.consumed
    (h : SlotMove l p slot target entries mark) (hconsumed : slot.state.isConsumed = true) :
    target.isConsumed = true ∧
      (target = .confirmedNoEffect → mark = .reconciled slot.key .confirmedNoEffect) := by
  cases h with
  | permitted hstate | dispatched hstate =>
    rw [hstate] at hconsumed
    cases hconsumed
  | noEffect hstate =>
    rcases hstate with hstate | hstate
    · rw [hstate] at hconsumed
      cases hconsumed
    · rw [hstate] at hconsumed
      cases hconsumed
  | closed | unknown | reconciling | resolvedClosed | unresolved => exact ⟨rfl, by simp⟩
  | resolvedNoEffect => exact ⟨rfl, fun _ => rfl⟩

lemma Change.follows (h : Change l mark l')
    (hslot : slot ∈ l.slots) (hconsumed : slot.state.isConsumed = true) :
    ∃ slot' ∈ l'.slots, Follows [mark] slot slot' := by
  have hsame : Follows [mark] slot slot := ⟨rfl, rfl, rfl, hconsumed, .inl⟩
  cases h with
  | slotMoved hp hout hmoving hid hmove =>
    obtain ⟨slot', hslot', hkey, htask, heffect, hstate | ⟨hqkey, hqstate, htarget⟩⟩ :=
      exists_mem_moveSlot hslot
    · refine ⟨slot', hslot', hkey, htask, heffect, hstate ▸ hconsumed, ?_⟩
      intro hconfirmed
      exact .inl (hstate ▸ hconfirmed)
    · obtain ⟨hnext, hmark⟩ := hmove.consumed (hqstate ▸ hconsumed)
      refine ⟨slot', hslot', hkey, htask, heffect, htarget ▸ hnext, ?_⟩
      intro hconfirmed
      rw [hqkey]
      exact .inr (List.mem_singleton.mpr (hmark (htarget ▸ hconfirmed)).symm)
  | bound =>
    obtain ⟨slot', hslot', hview⟩ := exists_mem_bindSlot hslot
    simp only [Prod.mk.injEq] at hview
    obtain ⟨hkey, htask, heffect, hstate⟩ := hview
    exact ⟨slot', hslot', hkey, htask, heffect, hstate ▸ hconsumed, fun h => .inl (hstate ▸ h)⟩
  | issued => exact ⟨slot, List.mem_append_left _ hslot, hsame⟩
  | registered | cancelled | entered | lost | receipted | tokened | held | noted | terminated
  | planned | authorized | published =>
    exact ⟨slot, hslot, hsame⟩

lemma Changes.follows (h : Changes l marks l')
    (hslot : slot ∈ l.slots) (hconsumed : slot.state.isConsumed = true) :
    ∃ slot' ∈ l'.slots, Follows marks slot slot' := by
  induction h with
  | refl => exact ⟨slot, hslot, .refl hconsumed⟩
  | snoc _ hlast ih =>
    obtain ⟨slot', hslot', hfollows⟩ := ih
    obtain ⟨slot'', hslot'', hfollows'⟩ := hlast.follows hslot' hfollows.2.2.2.1
    exact ⟨slot'', hslot'', hfollows.trans hfollows'⟩

/-! ### Dispatches in a run -/

def Consumes (e : Event TaskStore Operation Answer) (slot : SlotRecord) : Prop :=
  ∃ request lease, e.input = .consumeDispatchToken request lease ∧
    e.output = .ok (.dispatched slot)

def ConfirmsNoEffect (e : Event TaskStore Operation Answer) (key : Id × ℕ) : Prop :=
  ∃ request lease takeover record, e.input = .reconcileEffect request lease takeover ∧
    e.output = .ok (.reconcile (.reconciled record)) ∧
    (record.permitId, record.effectSeq) = key ∧ record.outcome = .confirmedNoEffect

/-- A consumed slot keeps its identity and becomes confirmed without effect only by a
reconciliation. -/
lemma exists_follower_of_step
    (hsound : t.ledger.Sound) (hstep : t.step operation = .ok (u, answer))
    (hslot : slot ∈ t.slots) (hconsumed : slot.state.isConsumed = true) :
    ∃ slot' ∈ u.slots, slot'.key = slot.key ∧ slot'.taskId = slot.taskId ∧
      slot'.logicalEffectId = slot.logicalEffectId ∧ slot'.state.isConsumed = true ∧
      (slot'.state = .confirmedNoEffect →
        slot.state = .confirmedNoEffect ∨ ConfirmsNoEffect ⟨t, operation, answer⟩ slot.key) := by
  obtain ⟨marks, hchanges, hmarked⟩ := steps_of_step hsound hstep
  obtain ⟨slot', hslot', hkey, htask, heffect, hnext, hconfirmed⟩ :=
    hchanges.follows hslot hconsumed
  refine ⟨slot', hslot', hkey, htask, heffect, hnext, ?_⟩
  intro hstate
  refine (hconfirmed hstate).imp_right ?_
  intro hmark
  exact (hmarked _ hmark).2

/-- Along a run the slot that was dispatched is found again, with the call that confirmed it. -/
lemma exists_follower_of_run (hrun : Run step t h s)
    (hsound : t.ledger.Sound) (hslot : slot ∈ t.slots) (hdispatched : slot.state = .dispatched) :
    ∃ slot' ∈ s.slots, slot'.key = slot.key ∧ slot'.taskId = slot.taskId ∧
      slot'.logicalEffectId = slot.logicalEffectId ∧ slot'.state.isConsumed = true ∧
      (slot'.state = .confirmedNoEffect → ∃ e ∈ h, ConfirmsNoEffect e slot.key) := by
  induction hrun with
  | refl =>
    refine ⟨slot, hslot, rfl, rfl, rfl, by rw [hdispatched]; rfl, ?_⟩
    intro hstate
    rw [hdispatched] at hstate
    cases hstate
  | @snoc h v w operation answer hpre hstep ih =>
    obtain ⟨mid, hmid, hkey, htask, heffect, hconsumed, hconfirmed⟩ := ih
    have hmidSound : v.ledger.Sound := hsound.of_run hpre
    obtain ⟨slot', hslot', hkey', htask', heffect', hconsumed', hconfirmed'⟩ :=
      exists_follower_of_step hmidSound hstep hmid hconsumed
    refine ⟨slot', hslot', hkey'.trans hkey, htask'.trans htask, heffect'.trans heffect,
      hconsumed', ?_⟩
    intro hstate
    rcases hconfirmed' hstate with hold | hnow
    · obtain ⟨e, he, hconfirms⟩ := hconfirmed hold
      exact ⟨e, List.mem_append_left _ he, hconfirms⟩
    · rw [hkey] at hnow
      exact ⟨_, List.mem_append_right _ (List.mem_singleton_self _), hnow⟩

/-- A token is consumed by moving one permitted slot to dispatched. -/
lemma Consumes.spec (h : Consumes e slot) (hstep : e.pre.step e.input = .ok (t, e.output)) :
    (slot ∈ t.slots ∧ slot.state = .dispatched) ∧
      ∃ old ∈ e.pre.slots, old.state = .permitted ∧ old.key = slot.key ∧
        old.taskId = slot.taskId ∧ old.logicalEffectId = slot.logicalEffectId := by
  obtain ⟨request, lease, hinput, houtput⟩ := h
  rw [hinput, houtput] at hstep
  obtain ⟨updated, hcall, hreply⟩ := transact_eq_ok.mp (Except.ok.inj hstep)
  cases hreply
  obtain ⟨-, hslot, ⟨old, hold, hpermitted, rfl⟩, -⟩ := consumeDispatchToken_spec hcall
  exact ⟨⟨hslot, rfl⟩, old, hold, hpermitted, rfl, rfl, rfl⟩

lemma Change.closed (h : Change l mark l')
    (hclosed : l.Closed taskId effect) : l'.Closed taskId effect := by
  cases h with
  | slotMoved | noted => exact Ledger.closed_append.mpr (.inl hclosed)
  | registered | cancelled | entered | lost | receipted | tokened | issued | bound | held
  | terminated | planned | authorized | published =>
    exact hclosed

/-- An effect that the history holds as closed stays closed. -/
lemma closed_of_run (hrun : Run step t h s) (hsound : t.ledger.Sound)
    (hclosed : t.ledger.Closed taskId effect) : s.ledger.Closed taskId effect := by
  refine (hrun.invariant (P := fun u => u.ledger.Sound ∧ u.ledger.Closed taskId effect)
    ⟨hsound, hclosed⟩ ?_).2
  rintro u v operation answer ⟨husound, huclosed⟩ hstep
  obtain ⟨marks, hchanges, -⟩ := steps_of_step husound hstep
  refine ⟨(steps_of_step husound hstep).sound husound, ?_⟩
  exact hchanges.invariant (P := fun l => l.Closed taskId effect) (fun hl hc => hc.closed hl)
    huclosed

lemma Ledger.Sound.confirmedNoEffect_of_permitted (hl : l.Sound) (hslot : slot ∈ l.slots)
    (hother : other ∈ l.slots)
    (htask : slot.taskId = other.taskId) (heffect : slot.logicalEffectId = other.logicalEffectId)
    (hconsumed : slot.state.isConsumed = true) (hpermitted : other.state = .permitted) :
    slot.state = .confirmedNoEffect := by
  have hclosed : slot.state ≠ .effectClosed := by
    intro hstate
    refine hl.permitted_open other hother hpermitted ?_
    rw [← htask, ← heffect]
    exact hl.closed_history slot hslot hstate
  have hsettled : slot.state.blocksFinalization ≠ true := by
    intro hblocks
    -- both slots would belong to the one outstanding permit of the task
    obtain ⟨p, hp, hpid, hptask⟩ := hl.slot_permit slot hslot
    obtain ⟨q, hq, hqid, hqtask⟩ := hl.slot_permit other hother
    have hpOut := hl.blocking slot hslot hblocks p hp hpid
    have hqOut := hl.blocking other hother (by rw [hpermitted]; rfl) q hq hqid
    have hpq := hl.one_outstanding p hp q hq hpOut hqOut (by rw [hptask, hqtask, htask])
    have hpermit : slot.permitId = other.permitId := by rw [← hpid, ← hqid, hpq]
    have hkey := hl.slot_effect slot hslot other hother hpermit heffect
    obtain rfl := hl.slots.eq hslot hother hkey
    rw [hpermitted] at hconsumed
    cases hconsumed
  cases hstate : slot.state with
  | confirmedNoEffect => rfl
  | effectClosed => exact absurd hstate hclosed
  | planned | permitted | noEffect =>
    rw [hstate] at hconsumed
    cases hconsumed
  | dispatched | effectUnknown | reconciling =>
    rw [hstate] at hsettled
    exact absurd rfl hsettled

/-- Between two consumptions of tokens of one logical effect the first slot was reconciled to have
had no effect, and none is consumed once the history holds a closure of the effect. -/
theorem no_double_dispatch (hrun : AuthorityRun profile authorityId h s) :
    (∀ h₁ e₁ h₂ e₂ h₃ slot₁ slot₂, h = h₁ ++ e₁ :: (h₂ ++ e₂ :: h₃) →
      Consumes e₁ slot₁ → Consumes e₂ slot₂ → slot₁.taskId = slot₂.taskId →
      slot₁.logicalEffectId = slot₂.logicalEffectId → ∃ e ∈ h₂, ConfirmsNoEffect e slot₁.key) ∧
    ∀ h₁ e₁ h₂ taskId effect, h = h₁ ++ e₁ :: h₂ → e₁.pre.isEffectClosedInHistory taskId effect →
      ∀ e ∈ e₁ :: h₂, ∀ slot, Consumes e slot →
        ¬ (slot.taskId = taskId ∧ slot.logicalEffectId = effect) := by
  constructor
  · rintro h₁ e₁ h₂ e₂ h₃ slot₁ slot₂ rfl hfirst hsecond htask heffect
    obtain ⟨hrun₁, t₁, hstep₁, hrest⟩ := Run.split hrun
    obtain ⟨hrun₂, t₂, hstep₂, -⟩ := hrest.split
    have hsound₁ : t₁.ledger.Sound := (sound_of_run hrun₁).of_run (.single hstep₁)
    obtain ⟨⟨hslot₁, hdispatched⟩, -⟩ := hfirst.spec hstep₁
    obtain ⟨-, old, hold, hpermitted, -, holdTask, holdEffect⟩ := hsecond.spec hstep₂
    obtain ⟨mid, hmid, -, hmidTask, hmidEffect, hconsumed, hconfirmed⟩ :=
      exists_follower_of_run hrun₂ hsound₁ hslot₁ hdispatched
    refine hconfirmed ?_
    refine (hsound₁.of_run hrun₂).confirmedNoEffect_of_permitted hmid hold ?_ ?_ hconsumed
      hpermitted
    · rw [hmidTask, htask, holdTask]
    · rw [hmidEffect, heffect, holdEffect]
  · rintro h₁ e₁ h₂ taskId effect rfl hclosed e he slot hconsumes ⟨rfl, rfl⟩
    obtain ⟨hrun₁, t₁, hstep₁, hrest⟩ := Run.split hrun
    have hsound₁ := sound_of_run hrun₁
    obtain ⟨g₁, g₂, hsplit⟩ := List.append_of_mem he
    have hlater : Run TaskStore.step e₁.pre (g₁ ++ e :: g₂) s := by
      rw [← hsplit]
      exact (Run.single hstep₁).trans hrest
    obtain ⟨hbefore, t, hstep, -⟩ := hlater.split
    obtain ⟨-, old, hold, hpermitted, -, holdTask, holdEffect⟩ := hconsumes.spec hstep
    refine (hsound₁.of_run hbefore).permitted_open old hold hpermitted ?_
    rw [holdTask, holdEffect]
    exact closed_of_run hbefore hsound₁ hclosed

namespace Sample

def effect : PlannedEffect := ⟨⟨1, 1, 0, 0, 0, 0, 0⟩, true, none, 0, 0⟩

def effectPermitId : Id := deriveEffectPermitId permitId 5

def dispatching : List Operation :=
  registering ++
    [.requestCommitPermit (permit [effect] 0) ⟨.ok (), .ok ()⟩ none,
      .requestEffectPermit ⟨1, 3, 1, permitId, 1, 0, 5, 50, 1⟩ (.ok ()) none,
      .consumeDispatchToken ⟨1, 3, 1, permitId, 1, effectPermitId,
        deriveDispatchToken effectPermitId 3 1, 2⟩ none]

def retryPermitId : Id := derivePermitId 1 7

def retryEffectPermitId : Id := deriveEffectPermitId retryPermitId 8

/-- The effect turns out unknown and is reconciled to have had none; a second attempt then
dispatches it again. -/
def redispatching : List Operation :=
  dispatching ++
    [.recordEffectOutcome ⟨1, 3, 1, permitId, 1, 0, .unknown 9, 3⟩ none, closePermit none,
      .adoptPermit ⟨1, permitId, 1, 8, 4⟩ none,
      .reconcileEffect ⟨1, permitId, 1, 0, deriveAdoptionReceiptId permitId 1, .confirmedNoEffect,
        0, 5⟩ none ⟨.ok (), .ok (), .ok (), .ok ()⟩,
      closePermit none,
      .registerAttempt { attempt with attemptId := 6, idempotencyKey := 6 } none (.ok ()),
      .requestCommitPermit { permit [effect] 0 with attemptId := 6, idempotencyKey := 7 }
        ⟨.ok (), .ok ()⟩ none,
      .requestEffectPermit ⟨1, 6, 1, retryPermitId, 2, 0, 8, 50, 1⟩ (.ok ()) none,
      .consumeDispatchToken ⟨1, 6, 1, retryPermitId, 2, retryEffectPermitId,
        deriveDispatchToken retryEffectPermitId 6 1, 2⟩ none]

/-- The task and logical effect of the slot whose token a call consumed. -/
def consumed (e : Event TaskStore Operation Answer) : Option (Id × Digest) :=
  match e.output with
  | .ok (.dispatched slot) => some (slot.taskId, slot.logicalEffectId)
  | _ => none

end Sample

/-- A logical effect is dispatched twice, after its first slot had no effect. -/
theorem no_double_dispatch_dispatching :
    ∃ h s, AuthorityRun Sample.profile 0 h s ∧
      h.filterMap Sample.consumed =
        [(1, Sample.effect.descriptor.logicalEffectId),
          (1, Sample.effect.descriptor.logicalEffectId)] ∧
      (∀ h₁ e₁ h₂ e₂ h₃ slot₁ slot₂, h = h₁ ++ e₁ :: (h₂ ++ e₂ :: h₃) →
        Consumes e₁ slot₁ → Consumes e₂ slot₂ → slot₁.taskId = slot₂.taskId →
        slot₁.logicalEffectId = slot₂.logicalEffectId → ∃ e ∈ h₂, ConfirmsNoEffect e slot₁.key) ∧
      ∀ h₁ e₁ h₂ taskId effect, h = h₁ ++ e₁ :: h₂ →
        e₁.pre.isEffectClosedInHistory taskId effect → ∀ e ∈ e₁ :: h₂, ∀ slot, Consumes e slot →
          ¬ (slot.taskId = taskId ∧ slot.logicalEffectId = effect) := by
  obtain ⟨h, s, hrun, -, hcheck⟩ : ∃ h s, AuthorityRun Sample.profile 0 h s ∧
      h.map Event.input = Sample.redispatching ∧
      decide (h.filterMap Sample.consumed =
        [(1, Sample.effect.descriptor.logicalEffectId),
          (1, Sample.effect.descriptor.logicalEffectId)]) = true :=
    exists_run_of_runCheck (f := TaskStore.step) (s := .empty Sample.profile 0)
      (by decide +kernel)
  exact ⟨h, s, hrun, of_decide_eq_true hcheck, no_double_dispatch hrun⟩

end Nlos.Task
