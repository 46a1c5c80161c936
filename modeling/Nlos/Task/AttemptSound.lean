import Nlos.Task.Refine

/-!
# Attempts, receipts and cancel epochs

Every receipt belongs to an attempt that has ended and names it, an outstanding permit belongs to
an attempt that is permitted to commit, and no permit or token was ever issued under a cancel epoch.
-/

namespace Nlos.Task

open Lib List

variable {receipt : TaskReceiptRecord}

structure Ledger.Attended (l : Ledger) : Prop where
  fences : l.fences.map Prod.fst = l.heads.map Prod.fst
  attempts : Keyed AttemptRecord.attemptId l.attempts
  permit_attempt : ∀ p ∈ l.permits, p.state.isOutstanding = true → ∃ a ∈ l.attempts,
    a.taskId = p.taskId ∧ a.attemptId = p.attemptId ∧ a.state = .commitPermitted
  permit_epoch : ∀ p ∈ l.permits, p.cancelEpoch = 0
  token_epoch : ∀ token ∈ l.tokens, token.cancelEpoch = 0
  receipt_attempt : ∀ r ∈ l.receipts, ∃ a ∈ l.attempts, a.attemptId = r.attemptId ∧
    a.receiptId = some r.receiptId ∧ a.state.isEnded = true

/-! ### Moving an attempt -/

section Move

variable {attempts : List AttemptRecord} {attempt a : AttemptRecord} {state : AttemptState}
  {receiptId : Option Id}

lemma mem_moveAttempt_of_state_ne (h : a ∈ attempts) (hstate : a.state ≠ attempt.state) :
    a ∈ moveAttempt attempt state receiptId attempts :=
  mem_updateRows.mpr (.inl ⟨h, fun hcond => hstate hcond.2⟩)

lemma mem_moveAttempt_of_id_ne (h : a ∈ attempts) (hid : a.attemptId ≠ attempt.attemptId) :
    a ∈ moveAttempt attempt state receiptId attempts :=
  mem_updateRows.mpr (.inl ⟨h, fun hcond => hid hcond.1⟩)

lemma mem_moveAttempt_self (h : a ∈ attempts) (hid : a.attemptId = attempt.attemptId)
    (hstate : a.state = attempt.state) : { a with state := state, receiptId := receiptId } ∈
      moveAttempt attempt state receiptId attempts :=
  mem_updateRows.mpr (.inr ⟨a, h, ⟨hid, hstate⟩, rfl⟩)

lemma exists_of_mem_moveAttempt (h : a ∈ moveAttempt attempt state receiptId attempts) :
    ∃ b ∈ attempts, b.attemptId = a.attemptId ∧ b.taskId = a.taskId := by
  rcases mem_updateRows.mp h with ⟨ha, -⟩ | ⟨b, hb, -, rfl⟩
  · exact ⟨a, ha, rfl, rfl⟩
  · exact ⟨b, hb, rfl, rfl⟩

lemma not_isEnded_of_isOpenCandidate (h : state.isOpenCandidate = true) :
    state.isEnded = false ∧ state ≠ .commitPermitted := by
  cases state with
  | created | readyToCommit => exact ⟨rfl, by simp⟩
  | conflicted | superseded | commitPermitted | cancelled | failed | committed => cases h

end Move

namespace Ledger.Attended

variable {l : Ledger}

lemma empty : Ledger.Attended ⟨[], [], [], [], [], [], [], [], [], []⟩ where
  fences := rfl
  attempts := keyed_nil _
  permit_attempt := by simp
  permit_epoch := by simp
  token_epoch := by simp
  receipt_attempt := by simp

lemma fence_eq (ha : l.Attended) (hl : l.Sound)
    (hn : (taskId, n, u) ∈ l.fences) (hm : (taskId, m, v) ∈ l.fences) : n = m ∧ u = v := by
  have hkeyed : Keyed Prod.fst l.fences := by
    unfold Keyed
    rw [ha.fences]
    exact hl.heads
  have heq := hkeyed.eq hn hm rfl
  simpa using heq

variable {attempt : AttemptRecord}

lemma state_of_termination (ha : l.Attended)
    (hterm : Termination l p attempt receipt) : attempt.state = .commitPermitted := by
  obtain ⟨b, hb, -, hid, hstate⟩ := ha.permit_attempt p hterm.mem (by rw [hterm.issued]; rfl)
  rw [ha.attempts.eq hterm.attempt_mem hb (hterm.attempt_id.trans hid.symm)]
  exact hstate

lemma moved_open (ha : l.Attended)
    (hopen : attempt.state.isOpenCandidate = true) :
    { l with attempts := moveAttempt attempt state receiptId l.attempts }.Attended where
  __ := ha
  attempts := ha.attempts.updateRows fun _ => rfl
  permit_attempt := by
    intro p hp hout
    obtain ⟨a, hmem, htask, hid, hstate⟩ := ha.permit_attempt p hp hout
    refine ⟨a, mem_moveAttempt_of_state_ne hmem ?_, htask, hid, hstate⟩
    rw [hstate]
    exact (not_isEnded_of_isOpenCandidate hopen).2.symm
  receipt_attempt := by
    intro r hr
    obtain ⟨a, hmem, hid, hreceipt, hended⟩ := ha.receipt_attempt r hr
    refine ⟨a, mem_moveAttempt_of_state_ne hmem ?_, hid, hreceipt, hended⟩
    intro heq
    rw [heq, (not_isEnded_of_isOpenCandidate hopen).1] at hended
    cases hended

lemma receipted (ha : l.Attended) (hclosure : Closure l attempt receipt) : { l with
      attempts := moveAttempt attempt .cancelled (some receipt.receiptId) l.attempts
      receipts := l.receipts ++ [receipt] }.Attended where
  __ := ha.moved_open hclosure.opened
  receipt_attempt := by
    refine forall_mem_append.mpr
      ⟨(ha.moved_open hclosure.opened).receipt_attempt, forall_mem_singleton.mpr ?_⟩
    obtain ⟨a, hmem, hid, hstate⟩ := hclosure.found
    exact ⟨_, mem_moveAttempt_self hmem hid hstate, hid.trans hclosure.attemptId.symm, rfl, rfl⟩

lemma issued (ha : l.Attended) {p slots} (hissuance : Issuance l attempt p) :
    { l with
      attempts := moveAttempt attempt .commitPermitted none l.attempts
      permits := l.permits ++ [p]
      slots := slots }.Attended where
  __ := ha.moved_open hissuance.opened
  permit_attempt := by
    refine forall_mem_append.mpr
      ⟨(ha.moved_open hissuance.opened).permit_attempt, forall_mem_singleton.mpr fun _ => ?_⟩
    exact ⟨_, mem_moveAttempt_self hissuance.attempt_mem rfl rfl, hissuance.attempt_taskId,
      hissuance.attempt_id, rfl⟩
  permit_epoch :=
    forall_mem_append.mpr ⟨ha.permit_epoch, forall_mem_singleton.mpr hissuance.cancelEpoch⟩

lemma held (ha : l.Attended) (hold : old.isOutstanding = true) :
    { l with permits := movePermit permitId old new l.permits }.Attended where
  __ := ha
  permit_attempt := by
    intro p hp hout
    rcases mem_updateRows.mp hp with ⟨hmem, -⟩ | ⟨q, hq, hcond, rfl⟩
    · exact ha.permit_attempt p hmem hout
    · exact ha.permit_attempt q hq (hcond.2 ▸ hold)
  permit_epoch := by
    intro p hp
    rcases mem_updateRows.mp hp with ⟨hmem, -⟩ | ⟨q, hq, -, rfl⟩
    · exact ha.permit_epoch p hmem
    · exact ha.permit_epoch q hq

lemma terminated (ha : l.Attended) (hl : l.Sound) {p state plans}
    (hterm : Termination l p attempt receipt) (hended : state.isEnded = true) : { l with
      heads := setHead p.taskId receipt.new l.heads
      attempts := moveAttempt attempt state (some receipt.receiptId) l.attempts
      permits := movePermit p.permitId .issued .closed l.permits
      receipts := l.receipts ++ [receipt]
      plans := plans }.Attended where
  __ := ha
  fences := by
    have hheads : (setHead p.taskId receipt.new l.heads).map Prod.fst = l.heads.map Prod.fst :=
      map_updateRows fun _ => rfl
    exact ha.fences.trans hheads.symm
  attempts := ha.attempts.updateRows fun _ => rfl
  permit_attempt := by
    intro q hq hout
    rcases mem_updateRows.mp hq with ⟨hmem, hother⟩ | ⟨q', -, -, rfl⟩
    · obtain ⟨a, hattempt, htask, hid, hstate⟩ := ha.permit_attempt q hmem hout
      refine ⟨a, mem_moveAttempt_of_id_ne hattempt ?_, htask, hid, hstate⟩
      -- the attempt of another outstanding permit is another attempt
      intro heq
      obtain rfl := ha.attempts.eq hattempt hterm.attempt_mem heq
      have hsame := hl.one_outstanding q hmem p hterm.mem hout (by rw [hterm.issued]; rfl)
        (htask.symm.trans hterm.attempt_taskId)
      obtain rfl := hl.permits.eq hmem hterm.mem hsame
      exact hother ⟨rfl, hterm.issued⟩
    · cases hout
  permit_epoch := by
    intro q hq
    rcases mem_updateRows.mp hq with ⟨hmem, -⟩ | ⟨q', hmem, -, rfl⟩
    · exact ha.permit_epoch q hmem
    · exact ha.permit_epoch q' hmem
  receipt_attempt := by
    intro r hr
    rcases mem_append.mp hr with hr | hr
    · obtain ⟨a, hmem, hid, hreceipt, hstate⟩ := ha.receipt_attempt r hr
      refine ⟨a, mem_moveAttempt_of_state_ne hmem ?_, hid, hreceipt, hstate⟩
      intro heq
      rw [heq, ha.state_of_termination hterm] at hstate
      cases hstate
    · obtain rfl := mem_singleton.mp hr
      exact ⟨_, mem_moveAttempt_self hterm.attempt_mem rfl rfl, hterm.receipt_attempt.symm, rfl,
        hended⟩

end Ledger.Attended

lemma Change.attended (h : Change l mark l') (hl : l.Sound)
    (ha : l.Attended) : l'.Attended := by
  cases h with
  | registered =>
    exact
      { ha with
        fences := by
          rw [map_append, map_append, ha.fences]
          rfl }
  | @cancelled taskId cancelEpoch _ =>
    refine { ha with fences := ?_ }
    have hfences : (setFence taskId cancelEpoch l.fences).map Prod.fst = l.fences.map Prod.fst :=
      map_updateRows fun _ => rfl
    exact hfences.trans ha.fences
  | @entered attempt _ hfresh hstate _ =>
    exact
      { ha with
        attempts := ha.attempts.append_singleton hfresh
        permit_attempt := by
          intro p hp hout
          obtain ⟨a, hmem, hfacts⟩ := ha.permit_attempt p hp hout
          exact ⟨a, mem_append_left _ hmem, hfacts⟩
        receipt_attempt := by
          intro r hr
          obtain ⟨a, hmem, hfacts⟩ := ha.receipt_attempt r hr
          exact ⟨a, mem_append_left _ hmem, hfacts⟩ }
  | lost hopen => exact ha.moved_open hopen
  | receipted hclosure => exact ha.receipted hclosure
  | tokened _ hpermit =>
    refine { ha with token_epoch := ?_ }
    refine forall_mem_append.mpr ⟨ha.token_epoch, forall_mem_singleton.mpr ?_⟩
    obtain ⟨p, hp, hepoch⟩ := hpermit
    rw [← hepoch]
    exact ha.permit_epoch p hp
  | issued hissuance => exact ha.issued hissuance
  | held hold => exact ha.held hold
  | terminated hterm hended => exact ha.terminated hl hterm hended
  | slotMoved | bound | noted | planned | authorized | published => exact { ha with }

lemma Change.keeps_ended (h : Change l mark l') (ha : l.Attended) (hmem : a ∈ l.attempts)
    (hended : a.state.isEnded = true) : a ∈ l'.attempts := by
  have hopened : ∀ {attempt : AttemptRecord}, attempt.state.isOpenCandidate = true →
      a.state ≠ attempt.state := by
    intro attempt hopen heq
    rw [heq, (not_isEnded_of_isOpenCandidate hopen).1] at hended
    cases hended
  cases h with
  | entered => exact mem_append_left _ hmem
  | lost hopen => exact mem_moveAttempt_of_state_ne hmem (hopened hopen)
  | receipted hclosure => exact mem_moveAttempt_of_state_ne hmem (hopened hclosure.opened)
  | issued hissuance => exact mem_moveAttempt_of_state_ne hmem (hopened hissuance.opened)
  | terminated hterm =>
    refine mem_moveAttempt_of_state_ne hmem ?_
    intro heq
    rw [heq, ha.state_of_termination hterm] at hended
    cases hended
  | registered | cancelled | tokened | slotMoved | bound | held | noted | planned | authorized
  | published => exact hmem

lemma Steps.attended_invariant {P : Ledger → Prop} {allowed : Mark → Prop}
    (hP : ∀ {l mark l'}, l.Sound → l.Attended → P l → Change l mark l' → P l')
    (h : Steps allowed s t) (hsound : s.ledger.Sound) (hattended : s.ledger.Attended)
    (hs : P s.ledger) : t.ledger.Sound ∧ t.ledger.Attended ∧ P t.ledger := by
  refine h.invariant (P := fun l => l.Sound ∧ l.Attended ∧ P l) ?_ ⟨hsound, hattended, hs⟩
  rintro l l' mark - ⟨hl, ha, hkept⟩ hchange
  exact ⟨hchange.sound hl, hchange.attended hl ha, hP hl ha hkept hchange⟩

lemma Steps.attended {allowed : Mark → Prop} (h : Steps allowed s t)
    (hsound : s.ledger.Sound) (hattended : s.ledger.Attended) : t.ledger.Attended :=
  (h.attended_invariant (P := fun _ => True) (fun _ _ _ _ => trivial) hsound hattended trivial).2.1

/-- Invariants that rest on soundness and attendance hold in every run. -/
lemma attended_invariant_of_run {P : Ledger → Prop}
    (hP : ∀ {l mark l'}, l.Sound → l.Attended → P l → Change l mark l' → P l')
    (hrun : Run TaskStore.step s h t) (hsound : s.ledger.Sound) (hattended : s.ledger.Attended)
    (hs : P s.ledger) : t.ledger.Sound ∧ t.ledger.Attended ∧ P t.ledger := by
  refine hrun.invariant (P := fun u => u.ledger.Sound ∧ u.ledger.Attended ∧ P u.ledger)
    ⟨hsound, hattended, hs⟩ ?_
  rintro u v operation answer ⟨hu, ha, hkept⟩ hstep
  exact (TaskStore.steps_of_step hu hstep).attended_invariant hP hu ha hkept

/-- In every run each outstanding permit belongs to an attempt that holds it. -/
lemma attended_of_run
    (hrun : AuthorityRun profile authorityId h s) : s.ledger.Attended :=
  (attended_invariant_of_run (P := fun _ => True) (fun _ _ _ _ => trivial) hrun Ledger.Sound.empty
    Ledger.Attended.empty trivial).2.1

/-- Every history of calls is one of changes of the ledger, each allowed to the call it is from. -/
theorem authority_refines_ledger (hrun : AuthorityRun profile authorityId h s) :
    ∃ marks, Changes (TaskStore.empty profile authorityId).ledger marks s.ledger ∧
      ∀ mark ∈ marks, ∃ e ∈ h, e.pre.Marked e.input e.output mark := by
  induction hrun with
  | refl => exact ⟨[], .refl, by simp⟩
  | @snoc h t u operation answer hrun hstep ih =>
    obtain ⟨marks, hchanges, hmarks⟩ := ih
    obtain ⟨new, hnew, hallowed⟩ := TaskStore.steps_of_step (sound_of_run hrun) hstep
    refine ⟨marks ++ new, hchanges.trans hnew, forall_mem_append.mpr ⟨fun mark hm => ?_, ?_⟩⟩
    · obtain ⟨e, he, hmark⟩ := hmarks mark hm
      exact ⟨e, mem_append_left _ he, hmark⟩
    · exact fun mark hm => ⟨_, mem_append_right _ (mem_singleton_self _), hallowed mark hm⟩

theorem authority_refines_committing : ∃ h s, AuthorityRun Sample.profile 0 h s ∧
    h.map Event.input = Sample.committing ∧
      ∃ marks, Changes (TaskStore.empty Sample.profile 0).ledger marks s.ledger ∧
        ∀ mark ∈ marks, ∃ e ∈ h, e.pre.Marked e.input e.output mark := by
  obtain ⟨h, s, hrun, hinputs, -⟩ := Sample.exists_committing
  exact ⟨h, s, hrun, hinputs, authority_refines_ledger hrun⟩

lemma Linked.commitSeq_eq (h : Linked start receipts finish) :
    finish.commitSeq = start.commitSeq + receipts.length := by
  induction receipts generalizing start with
  | nil =>
    cases h
    rfl
  | cons receipt rest ih =>
    obtain ⟨-, hseq, -, hrest⟩ := h
    rw [ih hrest, hseq, length_cons]
    omega

/-- The commit sequence of a task counts its commits and its failures after an effect. -/
theorem commitSeq_counts_receipts (hrun : AuthorityRun profile authorityId h s) :
    ∀ task ∈ s.tasks, task.head.commitSeq = s.receipts.countP fun r => r.taskId = task.taskId ∧
      r.outcome ≠ .failedBeforeEffect ∧ r.outcome ≠ .cancelledBeforeEffect := by
  have hsound := sound_of_run hrun
  intro task htask
  have hchain := hsound.chain (task.taskId, task.head) (mem_map_of_mem htask)
  rw [hchain.commitSeq_eq, advancing, ← countP_eq_length_filter,
    show initialHead.commitSeq = 0 from rfl, Nat.zero_add]
  refine countP_congr fun r hr => ?_
  simp only [decide_eq_true_iff]
  refine and_congr_right fun _ => ?_
  cases hpermit : r.permitId with
  | none =>
    obtain ⟨houtcome, hsame⟩ := hsound.unpermitted r hr hpermit
    simp [houtcome, hsame]
  | some permitId =>
    have htruthful := hsound.truthful r hr permitId hpermit
    have hne : r.new.commitSeq = r.prior.commitSeq + 1 → r.new ≠ r.prior := by
      intro hseq heq
      simp [heq] at hseq
    unfold Truthful at htruthful
    cases houtcome : r.outcome <;> simp only [houtcome] at htruthful <;> simp <;> tauto

theorem commitSeq_counts_committing : ∃ h s, AuthorityRun Sample.profile 0 h s ∧
    h.map Event.input = Sample.committing ∧
      ∀ task ∈ s.tasks, task.head.commitSeq = s.receipts.countP fun r => r.taskId = task.taskId ∧
        r.outcome ≠ .failedBeforeEffect ∧ r.outcome ≠ .cancelledBeforeEffect := by
  obtain ⟨h, s, hrun, hinputs, -⟩ := Sample.exists_committing
  exact ⟨h, s, hrun, hinputs, commitSeq_counts_receipts hrun⟩

end Nlos.Task
