import Nlos.Task.Ledger

/-!
# What every change of the ledger keeps

The keys of the tables, the single outstanding permit of a task, the settled slots of a permit
that has ended, the agreement of closed slots and history, and the chain of the receipts.
-/

namespace Nlos.Task

open Lib List

variable {permitId : Id} {slots : List SlotRecord} {effectPermitId effectReceiptId : Option Id}
  {attempts : List AttemptRecord}

structure Ledger.Sound (l : Ledger) : Prop where
  heads : Keyed Prod.fst l.heads
  permits : Keyed PermitRecord.permitId l.permits
  slots : Keyed SlotRecord.key l.slots
  receipts : Keyed TaskReceiptRecord.receiptId l.receipts
  plans : Keyed ArtifactCommitPlanRecord.planId l.plans
  plans_permit : Keyed ArtifactCommitPlanRecord.permitId l.plans
  slot_permit : ∀ slot ∈ l.slots, ∃ p ∈ l.permits,
    p.permitId = slot.permitId ∧ p.taskId = slot.taskId
  /-- A permit plans a logical effect once. -/
  slot_effect : ∀ slot ∈ l.slots, ∀ other ∈ l.slots, slot.permitId = other.permitId →
    slot.logicalEffectId = other.logicalEffectId → slot.key = other.key
  one_outstanding : ∀ p ∈ l.permits, ∀ q ∈ l.permits, p.state.isOutstanding = true →
    q.state.isOutstanding = true → p.taskId = q.taskId → p.permitId = q.permitId
  /-- A slot that blocks finalization belongs to an outstanding permit. -/
  blocking : ∀ slot ∈ l.slots, slot.state.blocksFinalization = true →
    ∀ p ∈ l.permits, p.permitId = slot.permitId → p.state.isOutstanding = true
  closed_history : ∀ slot ∈ l.slots, slot.state = .effectClosed →
    l.Closed slot.taskId slot.logicalEffectId
  /-- No token is out for an effect that is closed in the history. -/
  permitted_open : ∀ slot ∈ l.slots, slot.state = .permitted →
    ¬ l.Closed slot.taskId slot.logicalEffectId
  receipt_head : ∀ r ∈ l.receipts, ∃ row ∈ l.heads, row.1 = r.taskId
  receipt_permit : ∀ r ∈ l.receipts, ∀ permitId, r.permitId = some permitId →
    ∃ p ∈ l.permits, p.permitId = permitId ∧ p.taskId = r.taskId ∧ p.state.isOutstanding = false
  receipt_once : ∀ r ∈ l.receipts, ∀ r' ∈ l.receipts, ∀ permitId, r.permitId = some permitId →
    r'.permitId = some permitId → r = r'
  truthful : ∀ r ∈ l.receipts, ∀ permitId, r.permitId = some permitId →
    Truthful l.slots r permitId
  unpermitted : ∀ r ∈ l.receipts, r.permitId = none →
    r.outcome = .cancelledBeforeEffect ∧ r.new = r.prior
  chain : ∀ row ∈ l.heads, Linked initialHead (advancing row.1 l.receipts) row.2

section Rows

lemma mem_movePermit (h : p ∈ movePermit permitId old new permits) :
    ∃ q ∈ permits, p.permitId = q.permitId ∧ p.taskId = q.taskId ∧
      (p = q ∧ ¬ (q.permitId = permitId ∧ q.state = old) ∨
        q.permitId = permitId ∧ q.state = old ∧ p.state = new) := by
  rcases mem_updateRows.mp h with ⟨hp, hcond⟩ | ⟨q, hq, hcond, rfl⟩
  · exact ⟨p, hp, rfl, rfl, .inl ⟨rfl, hcond⟩⟩
  · exact ⟨q, hq, rfl, rfl, .inr ⟨hcond.1, hcond.2, rfl⟩⟩

lemma exists_mem_movePermit (h : q ∈ permits) :
    ∃ p ∈ movePermit permitId old new permits, p.permitId = q.permitId ∧ p.taskId = q.taskId ∧
      (p.state = q.state ∨ q.permitId = permitId ∧ q.state = old ∧ p.state = new) := by
  by_cases hcond : q.permitId = permitId ∧ q.state = old
  · exact ⟨{ q with state := new }, mem_updateRows.mpr (.inr ⟨q, h, hcond, rfl⟩), rfl, rfl,
      .inr ⟨hcond.1, hcond.2, rfl⟩⟩
  · exact ⟨q, mem_updateRows.mpr (.inl ⟨h, hcond⟩), rfl, rfl, .inl rfl⟩

lemma mem_moveSlot
    (h : r ∈ moveSlot slot target effectPermitId effectReceiptId slots) :
    ∃ q ∈ slots, r.key = q.key ∧ r.taskId = q.taskId ∧ r.logicalEffectId = q.logicalEffectId ∧
      (r = q ∧ ¬ (q.key = slot.key ∧ q.state = slot.state ∧ q.stateSeq = slot.stateSeq) ∨
        q.key = slot.key ∧ r.state = target) := by
  rcases mem_updateRows.mp h with ⟨hr, hcond⟩ | ⟨q, hq, hcond, rfl⟩
  · exact ⟨r, hr, rfl, rfl, rfl, .inl ⟨rfl, hcond⟩⟩
  · exact ⟨q, hq, rfl, rfl, rfl, .inr ⟨hcond.1, rfl⟩⟩

lemma exists_mem_moveSlot (h : q ∈ slots) :
    ∃ r ∈ moveSlot slot target effectPermitId effectReceiptId slots,
      r.key = q.key ∧ r.taskId = q.taskId ∧ r.logicalEffectId = q.logicalEffectId ∧
        (r.state = q.state ∨ q.key = slot.key ∧ q.state = slot.state ∧ r.state = target) := by
  by_cases hcond : q.key = slot.key ∧ q.state = slot.state ∧ q.stateSeq = slot.stateSeq
  · exact ⟨q.moved target effectPermitId effectReceiptId,
      mem_updateRows.mpr (.inr ⟨q, h, hcond, rfl⟩), rfl, rfl, rfl, .inr ⟨hcond.1, hcond.2.1, rfl⟩⟩
  · exact ⟨q, mem_updateRows.mpr (.inl ⟨h, hcond⟩), rfl, rfl, rfl, .inl rfl⟩

lemma permitId_eq_of_key {slot other : SlotRecord} (h : slot.key = other.key) :
    slot.permitId = other.permitId :=
  congrArg Prod.fst h

/-- An update of the slots with one key leaves the slots of other permits. -/
lemma mem_updateRows_iff_of_permitId {P : SlotRecord → Prop} [DecidablePred P]
    {f : SlotRecord → SlotRecord} {slot r : SlotRecord} (hf : ∀ q, (f q).key = q.key)
    (hP : ∀ q, P q → q.key = slot.key) (hother : r.permitId ≠ slot.permitId) :
    r ∈ updateRows P f slots ↔ r ∈ slots := by
  constructor
  · intro h
    rcases mem_updateRows.mp h with ⟨hr, -⟩ | ⟨q, -, hcond, rfl⟩
    · exact hr
    · exact absurd (permitId_eq_of_key ((hf q).trans (hP q hcond))) hother
  · intro h
    exact mem_updateRows.mpr (.inl ⟨h, fun hcond => hother (permitId_eq_of_key (hP r hcond))⟩)

/-- Naming a fiber for a slot leaves what the ledger is about as it was. -/
lemma mem_bindSlot (h : r ∈ bindSlot slot binding generation slots) :
    ∃ q ∈ slots, r.key = q.key ∧ r.taskId = q.taskId ∧ r.logicalEffectId = q.logicalEffectId ∧
      r.state = q.state := by
  obtain ⟨q, hq, rfl | ⟨-, rfl⟩⟩ := exists_of_mem_updateRows h
  · exact ⟨r, hq, rfl, rfl, rfl, rfl⟩
  · exact ⟨q, hq, rfl, rfl, rfl, rfl⟩

lemma exists_mem_bindSlot (h : q ∈ slots) : ∃ r ∈ bindSlot slot binding generation slots,
    (r.key, r.taskId, r.logicalEffectId, r.state) =
      (q.key, q.taskId, q.logicalEffectId, q.state) := by
  unfold bindSlot
  exact exists_mem_updateRows (f := (SlotRecord.bound · binding generation))
    (fun r => (r.key, r.taskId, r.logicalEffectId, r.state)) (fun _ => rfl) h

end Rows

/-! ### The changes one by one -/

namespace Ledger.Sound

variable {l : Ledger}

lemma empty : Ledger.Sound ⟨[], [], [], [], [], [], [], [], [], []⟩ where
  heads := keyed_nil _
  permits := keyed_nil _
  slots := keyed_nil _
  receipts := keyed_nil _
  plans := keyed_nil _
  plans_permit := keyed_nil _
  slot_permit := by simp
  slot_effect := by simp
  one_outstanding := by simp
  blocking := by simp
  closed_history := by simp
  permitted_open := by simp
  receipt_head := by simp
  receipt_permit := by simp
  receipt_once := by simp
  truthful := by simp
  unpermitted := by simp
  chain := by simp

lemma registered (hl : l.Sound) {taskId fences} (hfresh : ∀ row ∈ l.heads, row.1 ≠ taskId) :
    { l with heads := l.heads ++ [(taskId, initialHead)], fences := fences }.Sound where
  __ := hl
  heads := hl.heads.append_singleton hfresh
  receipt_head := by
    intro r hr
    obtain ⟨row, hrow, htask⟩ := hl.receipt_head r hr
    exact ⟨row, mem_append_left _ hrow, htask⟩
  chain := by
    refine forall_mem_append.mpr ⟨hl.chain, forall_mem_singleton.mpr ?_⟩
    -- A task without a head has no receipts yet.
    have hnone : advancing taskId l.receipts = [] := by
      refine filter_eq_nil_iff.mpr ?_
      intro r hr
      obtain ⟨old, hold, htask⟩ := hl.receipt_head r hr
      have hne := hfresh old hold
      simp only [decide_eq_true_eq, not_and]
      intro heq
      exact absurd (htask.trans heq) hne
    show Linked initialHead (advancing taskId l.receipts) initialHead
    rw [hnone]
    rfl

lemma receipted (hl : l.Sound) (hclosure : Closure l attempt receipt) :
    { l with attempts := attempts, receipts := l.receipts ++ [receipt] }.Sound where
  __ := hl
  receipts := hl.receipts.append_singleton hclosure.fresh
  receipt_head :=
    forall_mem_append.mpr ⟨hl.receipt_head, forall_mem_singleton.mpr ⟨_, hclosure.head, rfl⟩⟩
  receipt_permit := forall_mem_append.mpr ⟨hl.receipt_permit, by simp [hclosure.permitId]⟩
  receipt_once := by
    refine forall_mem_append.mpr ⟨fun r hr => ?_, by simp [hclosure.permitId]⟩
    exact forall_mem_append.mpr ⟨hl.receipt_once r hr, by simp [hclosure.permitId]⟩
  truthful := forall_mem_append.mpr ⟨hl.truthful, by simp [hclosure.permitId]⟩
  unpermitted := forall_mem_append.mpr
    ⟨hl.unpermitted, forall_mem_singleton.mpr fun _ => ⟨hclosure.outcome, hclosure.unchanged⟩⟩
  chain := by
    intro row hrow
    show Linked initialHead (advancing row.1 (l.receipts ++ [receipt])) row.2
    rw [advancing_append_of_not (.inr hclosure.unchanged)]
    exact hl.chain row hrow

lemma issued (hl : l.Sound) {p : PermitRecord}
    (hfresh : ∀ q ∈ l.permits, q.permitId ≠ p.permitId) (hstate : p.state = .issued)
    (hfree : ∀ q ∈ l.permits, q.taskId = p.taskId → q.state.isOutstanding = false)
    (hslots : ∀ slot ∈ slots, slot.permitId = p.permitId ∧ slot.taskId = p.taskId ∧
      slot.state = .planned)
    (hseq : Keyed SlotRecord.effectSeq slots) (heffect : Keyed SlotRecord.logicalEffectId slots) :
    { l with
      attempts := attempts
      permits := l.permits ++ [p]
      slots := l.slots ++ slots }.Sound := by
  have hold : ∀ slot ∈ l.slots, slot.permitId ≠ p.permitId := by
    intro slot hslot heq
    obtain ⟨q, hq, hid, -⟩ := hl.slot_permit slot hslot
    exact hfresh q hq (hid.trans heq)
  have hnewKeys : Keyed SlotRecord.key slots := by
    refine List.Nodup.of_map Prod.snd ?_
    rw [map_map]
    exact hseq
  have hout : p.state.isOutstanding = true := by rw [hstate]; rfl
  exact
    { hl with
      permits := hl.permits.append_singleton hfresh
      slots := by
        refine hl.slots.append hnewKeys ?_
        intro slot hslot new hnew heq
        exact hold slot hslot ((permitId_eq_of_key heq).trans (hslots new hnew).1)
      slot_permit := by
        refine forall_mem_append.mpr ⟨fun slot hslot => ?_, fun slot hslot => ?_⟩
        · obtain ⟨q, hq, hids⟩ := hl.slot_permit slot hslot
          exact ⟨q, mem_append_left _ hq, hids⟩
        · obtain ⟨hid, htask, -⟩ := hslots slot hslot
          exact ⟨p, by simp, hid.symm, htask.symm⟩
      slot_effect := by
        intro slot hslot other hother hid heq
        rcases mem_append.mp hslot with hslot | hslot <;>
          rcases mem_append.mp hother with hother | hother
        · exact hl.slot_effect slot hslot other hother hid heq
        · exact absurd (hid.trans (hslots other hother).1) (hold slot hslot)
        · exact absurd (hid.symm.trans (hslots slot hslot).1) (hold other hother)
        · rw [heffect.eq hslot hother heq]
      one_outstanding := by
        intro q hq q' hq' hqout hqout' htask
        simp only [mem_append, mem_singleton] at hq hq'
        rcases hq with hq | rfl <;> rcases hq' with hq' | rfl
        · exact hl.one_outstanding q hq q' hq' hqout hqout' htask
        · rw [hfree q hq htask] at hqout
          cases hqout
        · rw [hfree q' hq' htask.symm] at hqout'
          cases hqout'
        · rfl
      blocking := by
        intro slot hslot hblock q hq hid
        simp only [mem_append, mem_singleton] at hq
        rcases hq with hq | rfl
        · rcases mem_append.mp hslot with hslot | hslot
          · exact hl.blocking slot hslot hblock q hq hid
          · exact absurd (hid.trans (hslots slot hslot).1) (hfresh q hq)
        · exact hout
      closed_history := by
        refine forall_mem_append.mpr ⟨hl.closed_history, fun slot hslot hclosed => ?_⟩
        rw [(hslots slot hslot).2.2] at hclosed
        cases hclosed
      permitted_open := by
        refine forall_mem_append.mpr ⟨hl.permitted_open, fun slot hslot hpermitted => ?_⟩
        rw [(hslots slot hslot).2.2] at hpermitted
        cases hpermitted
      receipt_permit := by
        intro r hr permitId hid
        obtain ⟨q, hq, hfacts⟩ := hl.receipt_permit r hr permitId hid
        exact ⟨q, mem_append_left _ hq, hfacts⟩
      truthful := by
        intro r hr permitId hid
        refine (hl.truthful r hr permitId hid).congr ?_
        intro slot hslot
        -- The new slots belong to a permit that has no receipt.
        obtain ⟨q, hq, hqid, -⟩ := hl.receipt_permit r hr permitId hid
        have hne : slot ∉ slots := by
          intro hmem
          exact hfresh q hq (hqid.trans (hslot.symm.trans (hslots slot hmem).1))
        simp [hne] }

lemma taskId_eq (hl : l.Sound) (hslot : slot ∈ l.slots)
    (hp : p ∈ l.permits) (hid : slot.permitId = p.permitId) : slot.taskId = p.taskId := by
  obtain ⟨q, hq, hqid, htask⟩ := hl.slot_permit slot hslot
  rw [← htask, hl.permits.eq hq hp (hqid.trans hid)]

end Ledger.Sound

namespace SlotMove

variable {l : Ledger} {p : PermitRecord} {slot : SlotRecord} {target : SlotState}
  {entries : List EffectHistoryEntry} {mark : Mark}

lemma exists_entry_of_closed (h : SlotMove l p slot .effectClosed entries mark) :
    ∃ entry ∈ entries, entry.taskId = p.taskId ∧ entry.logicalEffectId = slot.logicalEffectId ∧
      entry.outcome = .effectClosed := by
  cases h with
  | closed _ htask heffect houtcome | resolvedClosed _ htask heffect houtcome =>
    exact ⟨_, mem_singleton_self _, htask, heffect, houtcome⟩

lemma of_closed_entry (h : SlotMove l p slot target entries mark)
    (hentry : entry ∈ entries) (hclosed : entry.outcome = .effectClosed) :
    entry.taskId = p.taskId ∧ entry.logicalEffectId = slot.logicalEffectId := by
  cases h with
  | closed _ htask heffect | resolvedClosed _ htask heffect =>
    rw [mem_singleton.mp hentry]
    exact ⟨htask, heffect⟩
  | resolvedNoEffect _ houtcome =>
    rw [mem_singleton.mp hentry, houtcome] at hclosed
    cases hclosed
  | permitted | dispatched | noEffect | unknown | reconciling | unresolved =>
    cases hentry

end SlotMove

namespace Ledger.Sound

variable {l : Ledger}

lemma permitId_ne_of_receipt (hl : l.Sound) (hr : r ∈ l.receipts)
    (hid : r.permitId = some permitId)
    (hp : p ∈ l.permits) (hout : p.state.isOutstanding = true) : permitId ≠ p.permitId := by
  rintro rfl
  obtain ⟨q, hq, hqid, -, hqout⟩ := hl.receipt_permit r hr _ hid
  rw [hl.permits.eq hq hp hqid, hout] at hqout
  cases hqout

lemma slotMoved (hl : l.Sound) {slot : SlotRecord}
    (hp : p ∈ l.permits) (hout : p.state.isOutstanding = true) (hslot : slot ∈ l.slots)
    (hid : slot.permitId = p.permitId) (hmove : SlotMove l p slot target entries mark) : { l with
      slots := moveSlot slot target effectPermitId effectReceiptId l.slots
      history := l.history ++ entries }.Sound where
  __ := hl
  slots := hl.slots.updateRows fun _ => rfl
  slot_permit := by
    intro r hr
    obtain ⟨q, hq, hkey, htask, -⟩ := mem_moveSlot hr
    rw [permitId_eq_of_key hkey, htask]
    exact hl.slot_permit q hq
  slot_effect := by
    intro r hr r' hr' hids heffects
    obtain ⟨q, hq, hkey, -, heffect, -⟩ := mem_moveSlot hr
    obtain ⟨q', hq', hkey', -, heffect', -⟩ := mem_moveSlot hr'
    rw [hkey, hkey']
    refine hl.slot_effect q hq q' hq' ?_ ?_
    · rw [← permitId_eq_of_key hkey, ← permitId_eq_of_key hkey', hids]
    · rw [← heffect, ← heffect', heffects]
  blocking := by
    intro r hr hblock p' hp' hpid
    obtain ⟨q, hq, hkey, -, -, ⟨rfl, -⟩ | ⟨hqkey, -⟩⟩ := mem_moveSlot hr
    · exact hl.blocking r hq hblock p' hp' hpid
    · have hsame : p'.permitId = p.permitId :=
        hpid.trans ((permitId_eq_of_key (hkey.trans hqkey)).trans hid)
      rw [hl.permits.eq hp' hp hsame]
      exact hout
  closed_history := by
    intro r hr hclosed
    obtain ⟨q, hq, -, htask, heffect, ⟨rfl, -⟩ | ⟨hqkey, htarget⟩⟩ := mem_moveSlot hr
    · exact Ledger.closed_append.mpr (.inl (hl.closed_history r hq hclosed))
    · have hqslot := hl.slots.eq hq hslot hqkey
      have hclosing : target = .effectClosed := htarget.symm.trans hclosed
      obtain ⟨entry, hentry, hentryTask, hentryEffect, houtcome⟩ :=
        (hclosing ▸ hmove).exists_entry_of_closed
      refine Ledger.closed_append.mpr (.inr ⟨entry, hentry, ?_, ?_, houtcome⟩)
      · rw [hentryTask, htask, hqslot, hl.taskId_eq hslot hp hid]
      · rw [hentryEffect, heffect, hqslot]
  permitted_open := by
    intro r hr hpermitted hclosed
    obtain ⟨q, hq, -, htask, heffect, ⟨rfl, hunmoved⟩ | ⟨hqkey, htarget⟩⟩ := mem_moveSlot hr
    · rcases Ledger.closed_append.mp hclosed with hclosed | ⟨entry, hentry, hentryTask,
        hentryEffect, houtcome⟩
      · exact hl.permitted_open r hq hpermitted hclosed
      · -- The closing slot would be `r` itself: one outstanding permit, one slot per effect.
        obtain ⟨hptask, hpeffect⟩ := hmove.of_closed_entry hentry houtcome
        have hblock : r.state.blocksFinalization = true := by rw [hpermitted]; rfl
        obtain ⟨p', hp', hpid', hptask'⟩ := hl.slot_permit r hq
        have hpermit : p'.permitId = p.permitId := by
          refine hl.one_outstanding p' hp' p hp (hl.blocking r hq hblock p' hp' hpid') hout ?_
          rw [hptask', ← hentryTask, hptask]
        have hkeys : r.key = slot.key := by
          refine hl.slot_effect r hq slot hslot ?_ ?_
          · rw [← hpid', hpermit, hid]
          · rw [← hentryEffect, hpeffect]
        rw [hl.slots.eq hq hslot hkeys] at hunmoved
        exact hunmoved ⟨rfl, rfl, rfl⟩
    · have hqslot := hl.slots.eq hq hslot hqkey
      have hpermitting : target = .permitted := htarget.symm.trans hpermitted
      rw [hpermitting] at hmove
      cases hmove with
      | permitted _ hopen =>
        rw [htask, heffect, hqslot, hl.taskId_eq hslot hp hid] at hclosed
        rw [append_nil] at hclosed
        exact hopen hclosed
  truthful := by
    intro r hr permitId hrid
    refine (hl.truthful r hr permitId hrid).congr ?_
    intro other hother
    refine mem_updateRows_iff_of_permitId (fun _ => rfl) (fun _ hq => hq.1) ?_
    rw [hother, hid]
    exact hl.permitId_ne_of_receipt hr hrid hp hout

lemma bound (hl : l.Sound) (hp : p ∈ l.permits) (hout : p.state.isOutstanding = true)
    (hid : slot.permitId = p.permitId) :
    { l with slots := bindSlot slot binding generation l.slots }.Sound where
  __ := hl
  slots := hl.slots.updateRows fun _ => rfl
  slot_permit := by
    intro r hr
    obtain ⟨q, hq, hkey, htask, -⟩ := mem_bindSlot hr
    rw [permitId_eq_of_key hkey, htask]
    exact hl.slot_permit q hq
  slot_effect := by
    intro r hr r' hr' hids heffects
    obtain ⟨q, hq, hkey, -, heffect, -⟩ := mem_bindSlot hr
    obtain ⟨q', hq', hkey', -, heffect', -⟩ := mem_bindSlot hr'
    rw [permitId_eq_of_key hkey, permitId_eq_of_key hkey'] at hids
    rw [hkey, hkey']
    exact hl.slot_effect q hq q' hq' hids (heffect ▸ heffect' ▸ heffects)
  blocking := by
    intro r hr hblock p' hp' hpid
    obtain ⟨q, hq, hkey, -, -, hstate⟩ := mem_bindSlot hr
    exact hl.blocking q hq (hstate ▸ hblock) p' hp' (hpid.trans (permitId_eq_of_key hkey))
  closed_history := by
    intro r hr hclosed
    obtain ⟨q, hq, -, htask, heffect, hstate⟩ := mem_bindSlot hr
    rw [htask, heffect]
    exact hl.closed_history q hq (hstate ▸ hclosed)
  permitted_open := by
    intro r hr hpermitted
    obtain ⟨q, hq, -, htask, heffect, hstate⟩ := mem_bindSlot hr
    rw [htask, heffect]
    exact hl.permitted_open q hq (hstate ▸ hpermitted)
  truthful := by
    intro r hr permitId hrid
    refine (hl.truthful r hr permitId hrid).congr fun other hother =>
      mem_updateRows_iff_of_permitId (fun _ => rfl) (fun _ hq => hq.1) ?_
    rw [hother, hid]
    exact hl.permitId_ne_of_receipt hr hrid hp hout

lemma held (hl : l.Sound)
    (hold : old.isOutstanding = true) (hnew : new.isOutstanding = true) :
    { l with permits := movePermit permitId old new l.permits }.Sound := by
  have hsource : ∀ p ∈ movePermit permitId old new l.permits, ∃ q ∈ l.permits,
      p.permitId = q.permitId ∧ p.taskId = q.taskId ∧
        p.state.isOutstanding = q.state.isOutstanding := by
    intro p hp
    obtain ⟨q, hq, hid, htask, ⟨rfl, -⟩ | ⟨-, hqold, hpnew⟩⟩ := mem_movePermit hp
    · exact ⟨p, hq, rfl, rfl, rfl⟩
    · exact ⟨q, hq, hid, htask, by rw [hpnew, hqold, hnew, hold]⟩
  exact
    { hl with
      permits := hl.permits.updateRows fun _ => rfl
      slot_permit := by
        intro slot hslot
        obtain ⟨q, hq, hid, htask⟩ := hl.slot_permit slot hslot
        obtain ⟨p, hp, hpid, hptask, -⟩ := exists_mem_movePermit hq
        exact ⟨p, hp, hpid.trans hid, hptask.trans htask⟩
      one_outstanding := by
        intro p hp p' hp' hout hout' htask
        obtain ⟨q, hq, hid, hqtask, hqout⟩ := hsource p hp
        obtain ⟨q', hq', hid', hqtask', hqout'⟩ := hsource p' hp'
        rw [hid, hid']
        exact hl.one_outstanding q hq q' hq' (hqout ▸ hout) (hqout' ▸ hout')
          (hqtask ▸ hqtask' ▸ htask)
      blocking := by
        intro slot hslot hblock p hp hid
        obtain ⟨q, hq, hqid, -, hqout⟩ := hsource p hp
        rw [hqout]
        exact hl.blocking slot hslot hblock q hq (hqid ▸ hid)
      receipt_permit := by
        intro r hr pid hrid
        obtain ⟨q, hq, hid, htask, hqout⟩ := hl.receipt_permit r hr pid hrid
        obtain ⟨p, hp, hpid, hptask, hstate | ⟨-, hqold, -⟩⟩ := exists_mem_movePermit hq
        · exact ⟨p, hp, hpid.trans hid, hptask.trans htask, by rw [hstate, hqout]⟩
        · rw [hqold, hold] at hqout
          cases hqout }

lemma noted (hl : l.Sound)
    (hentries : ∀ entry ∈ entries, entry.outcome ≠ .effectClosed) :
    { l with history := l.history ++ entries }.Sound where
  __ := hl
  closed_history := by
    intro slot hslot hclosed
    exact Ledger.closed_append.mpr (.inl (hl.closed_history slot hslot hclosed))
  permitted_open := by
    intro slot hslot hpermitted hclosed
    rcases Ledger.closed_append.mp hclosed with hclosed | ⟨entry, hentry, -, -, houtcome⟩
    · exact hl.permitted_open slot hslot hpermitted hclosed
    · exact hentries entry hentry houtcome

lemma planned (hl : l.Sound)
    (hfresh : ∀ q ∈ l.plans, q.planId ≠ plan.planId ∧ q.permitId ≠ plan.permitId) :
    { l with plans := l.plans ++ [plan] }.Sound where
  __ := hl
  plans := hl.plans.append_singleton fun q hq => (hfresh q hq).1
  plans_permit := hl.plans_permit.append_singleton fun q hq => (hfresh q hq).2

lemma terminated (hl : l.Sound) {p receipt attempt plans mark}
    (hterm : Termination l p attempt receipt)
    (hclosing : PlanClosing l p.permitId receipt plans mark) : { l with
      heads := setHead p.taskId receipt.new l.heads
      attempts := attempts
      permits := movePermit p.permitId .issued .closed l.permits
      receipts := l.receipts ++ [receipt]
      plans := plans }.Sound := by
  have hout : p.state.isOutstanding = true := by rw [hterm.issued]; rfl
  -- A permit that is still outstanding was not the one that ended.
  have hsource : ∀ q ∈ movePermit p.permitId .issued .closed l.permits,
      q.state.isOutstanding = true → q ∈ l.permits := by
    intro q hq hqout
    obtain ⟨q', hq', -, -, ⟨rfl, -⟩ | ⟨-, -, hclosed⟩⟩ := mem_movePermit hq
    · exact hq'
    · rw [hclosed] at hqout
      cases hqout
  exact
    { hl with
      heads := hl.heads.updateRows fun _ => rfl
      permits := hl.permits.updateRows fun _ => rfl
      receipts := hl.receipts.append_singleton hterm.fresh
      plans := by
        cases hclosing with
        | untouched => exact hl.plans
        | committed => exact hl.plans.updateRows fun _ => rfl
      plans_permit := by
        cases hclosing with
        | untouched => exact hl.plans_permit
        | committed => exact hl.plans_permit.updateRows fun _ => rfl
      slot_permit := by
        intro slot hslot
        obtain ⟨q, hq, hid, htask⟩ := hl.slot_permit slot hslot
        obtain ⟨q', hq', hid', htask', -⟩ := exists_mem_movePermit hq
        exact ⟨q', hq', hid'.trans hid, htask'.trans htask⟩
      one_outstanding := by
        intro q hq q' hq' hqout hqout' htask
        exact hl.one_outstanding q (hsource q hq hqout) q' (hsource q' hq' hqout') hqout hqout'
          htask
      blocking := by
        intro slot hslot hblock q hq hid
        obtain ⟨q', hq', hqid, -, ⟨rfl, -⟩ | ⟨hended, -, -⟩⟩ := mem_movePermit hq
        · exact hl.blocking slot hslot hblock q hq' hid
        · have hsettled := hterm.settled slot hslot (hid.symm.trans (hqid.trans hended))
          rw [hblock] at hsettled
          cases hsettled
      receipt_head := by
        intro r hr
        have hrows := forall_mem_append.mpr ⟨hl.receipt_head,
          forall_mem_singleton.mpr ⟨_, hterm.head, hterm.taskId.symm⟩⟩
        obtain ⟨row, hrow, htask⟩ := hrows r hr
        by_cases hcond : row.1 = p.taskId
        · exact ⟨(row.1, receipt.new), mem_updateRows.mpr (.inr ⟨row, hrow, hcond, rfl⟩), htask⟩
        · exact ⟨row, mem_updateRows.mpr (.inl ⟨hrow, hcond⟩), htask⟩
      receipt_permit := by
        refine forall_mem_append.mpr ⟨fun r hr permitId hid => ?_,
          forall_mem_singleton.mpr fun permitId hid => ?_⟩
        · obtain ⟨q, hq, hqid, htask, hqout⟩ := hl.receipt_permit r hr permitId hid
          obtain ⟨q', hq', hqid', htask', hstate | ⟨-, hissued, -⟩⟩ := exists_mem_movePermit hq
          · exact ⟨q', hq', hqid'.trans hqid, htask'.trans htask, by rw [hstate, hqout]⟩
          · rw [hissued] at hqout
            cases hqout
        · rw [hterm.permitId] at hid
          cases hid
          refine ⟨{ p with state := .closed }, ?_, rfl, hterm.taskId.symm, rfl⟩
          exact mem_updateRows.mpr (.inr ⟨p, hterm.mem, ⟨rfl, hterm.issued⟩, rfl⟩)
      receipt_once := by
        intro r hr r' hr' permitId hid hid'
        simp only [mem_append, mem_singleton] at hr hr'
        rcases hr with hr | rfl <;> rcases hr' with hr' | rfl
        · exact hl.receipt_once r hr r' hr' permitId hid hid'
        · rw [hterm.permitId] at hid'
          cases hid'
          exact absurd rfl (hl.permitId_ne_of_receipt hr hid hterm.mem hout)
        · rw [hterm.permitId] at hid
          cases hid
          exact absurd rfl (hl.permitId_ne_of_receipt hr' hid' hterm.mem hout)
        · rfl
      truthful := by
        refine forall_mem_append.mpr ⟨hl.truthful, forall_mem_singleton.mpr fun permitId hid => ?_⟩
        rw [hterm.permitId] at hid
        cases hid
        exact hterm.truthful
      unpermitted := forall_mem_append.mpr ⟨hl.unpermitted, by simp [hterm.permitId]⟩
      chain := by
        intro row hrow
        show Linked initialHead (advancing row.1 (l.receipts ++ [receipt])) row.2
        rcases mem_updateRows.mp hrow with ⟨hrow, hother⟩ | ⟨old, hold, htask, rfl⟩
        · rw [advancing_append_of_not (.inl (hterm.taskId ▸ Ne.symm hother))]
          exact hl.chain row hrow
        · have hhead : old = (p.taskId, receipt.prior) := hl.heads.eq hold hterm.head htask
          have hchain := hl.chain old hold
          rw [hhead] at hchain ⊢
          rcases hterm.truthful.head_step with hsame | ⟨hseq, hfence⟩
          · rw [advancing_append_of_not (.inr hsame), hsame]
            exact hchain
          · have hmoves : receipt.new ≠ receipt.prior := by
              intro heq
              rw [heq] at hseq
              omega
            have happend : advancing p.taskId (l.receipts ++ [receipt]) =
                advancing p.taskId l.receipts ++ [receipt] := by
              simp [advancing, hterm.taskId, hmoves]
            rw [happend]
            exact hchain.snoc rfl hseq hfence }

end Ledger.Sound

/-- Every change of the ledger keeps it sound; the cases are the lemmas above. -/
lemma Change.sound (h : Change l mark l') (hl : l.Sound) :
    l'.Sound := by
  cases h with
  | registered hfresh => exact hl.registered hfresh
  | cancelled | entered | lost | tokened => exact { hl with }
  | receipted hclosure => exact hl.receipted hclosure
  | issued _ hfresh hstate hfree hslots hseq heffect =>
    exact hl.issued hfresh hstate hfree hslots hseq heffect
  | slotMoved hp hout hslot hid hmove => exact hl.slotMoved hp hout hslot hid hmove
  | bound hp hout hid => exact hl.bound hp hout hid
  | held hold hnew => exact hl.held hold hnew
  | noted hentries => exact hl.noted hentries
  | terminated hterm _ hclosing => exact hl.terminated hterm hclosing
  | planned hfresh => exact hl.planned hfresh
  | authorized | published =>
    exact
      { hl with
        plans := hl.plans.updateRows fun _ => rfl
        plans_permit := hl.plans_permit.updateRows fun _ => rfl }

lemma Change.receipts_subset (h : Change l mark l') : l.receipts ⊆ l'.receipts := by
  cases h with
  | receipted | terminated => exact subset_append_left _ _
  | registered | cancelled | entered | lost | tokened | issued | slotMoved | bound | held | noted
  | planned | authorized | published =>
    exact List.Subset.refl _

end Nlos.Task
