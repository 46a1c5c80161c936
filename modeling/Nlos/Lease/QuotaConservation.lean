import Nlos.Lease.QuotaMoves
import Nlos.Lib.Run

/-!
# Conservation of quota

What the grantor was opened with is at every moment the pool plus what the leases have not returned.
The marks of a lease only rise.
-/

namespace Nlos.Lease

open Lib List CellAuthority

variable {total : ℕ} {receipt? : Option QuotaReconciliationReceipt} {b c : QuotaBooks}

abbrev QuotaBooks.Conserves (total : ℕ) (books : QuotaBooks) : Prop :=
  Pooled.Conserves QuotaLeaseGrant.SoundAt QuotaLeaseGrant.held total books

lemma QuotaBooks.Conserves.keyed (h : b.Conserves total) :
    QuotaLeaseGrantor.Keyed b.rows := fun id lease hlease => (h.sound id lease hlease).2

def QuotaBooks.Rises (b c : QuotaBooks) : Prop :=
  ∀ (id : QuotaLeaseId) (v : QuotaLeaseGrant), b.rows[id]? = some v →
    ∃ w, c.rows[id]? = some w ∧ v.spent ≤ w.spent ∧ v.returned ≤ w.returned

lemma QuotaBooks.Rises.refl : b.Rises b := fun _ v hv => ⟨v, hv, le_rfl, le_rfl⟩

lemma QuotaBooks.Rises.trans (hbc : b.Rises c) (hcd : c.Rises d) : b.Rises d := by
  intro id v hv
  obtain ⟨w, hw, hspent, hreturned⟩ := hbc id v hv
  obtain ⟨u, hu, hspent', hreturned'⟩ := hcd id w hw
  exact ⟨u, hu, hspent.trans hspent', hreturned.trans hreturned'⟩

lemma marks_le_of_revisions
    (h : Relation.ReflTransGen (QuotaLeaseGrant.RevisesUnder receipt?) v w) :
    v.spent ≤ w.spent ∧ v.returned ≤ w.returned := by
  induction h with
  | refl => exact ⟨le_rfl, le_rfl⟩
  | tail _ hrevises ih =>
    exact ⟨ih.1.trans hrevises.1.spent_le, ih.2.trans hrevises.1.returned_le⟩

lemma QuotaMoves.rises (hmoves : QuotaMoves receipt? b c) (h : b.Conserves total) :
    b.Rises c := by
  intro id v hv
  obtain ⟨w, hw, hrevisions⟩ := Pooled.Moves.revised hmoves h id v hv
  exact ⟨w, hw, marks_le_of_revisions hrevisions⟩

/-! ### The additions stay in range -/

namespace QuotaLeaseGrantor

variable {g t : QuotaLeaseGrantor} {presented : CellFence} {leaseId : QuotaLeaseId}
  {existing : QuotaLeaseGrant} {receipt : QuotaReconciliationReceipt} {call : QuotaCall}
  {answer : QuotaAnswer}

/-- The conditions under which no addition overflows. -/
structure InRange (total : ℕ) (g : QuotaLeaseGrantor) : Prop where
  conserves : g.books.Conserves total
  total_lt : total < 2 ^ 64
  seq_lt : ∀ receipt, g.Recorded receipt → receipt.reconcileSeq + 1 < 2 ^ 64

lemma admitted_ne_overflow : g.admitted presented leaseId ≠ .error .overflow :=
  bind_ne_overflow (within_ne_overflow admitFence_ne_overflow) fun _ _ =>
    expect_ne_overflow

lemma InRange.pool_add_lt (h : InRange total g) (hlease : g.leases[leaseId]? = some existing)
    (hle : amount ≤ existing.held) : g.available + amount < 2 ^ 64 := by
  have hpool : g.available + existing.held ≤ total := h.conserves.escrow.pool_add_le hlease
  have htotal := h.total_lt
  omega

lemma refundRemaining_ne_overflow (h : InRange total g)
    (hlease : g.leases[leaseId]? = some existing) (hunsettled : existing.state.unsettled = true) :
    g.refundRemaining leaseId existing ≠ .error .overflow := by
  have hsound := (h.conserves.sound leaseId existing hlease).1
  have hconserved := hsound.conserved
  have hreturned := hsound.unreturned hunsettled
  have hheld : existing.remaining ≤ existing.held := by
    unfold QuotaLeaseGrant.held
    omega
  have hpool := h.pool_add_lt hlease hheld
  refine bind_ne_overflow (add64_ne_overflow hpool) fun _ _ => ?_
  exact bind_ne_overflow (add64_ne_overflow (by omega)) fun _ _ => by rintro ⟨⟩

lemma admitted_bind_ne_overflow {β : Type} {f : QuotaLeaseGrant → Call QuotaLeaseLedgerError β}
    (hf : ∀ existing, g.leases[leaseId]? = some existing → f existing ≠ .error .overflow) :
    (g.admitted presented leaseId >>= f) ≠ .error .overflow :=
  bind_ne_overflow admitted_ne_overflow fun existing h => hf existing (admitted_eq_ok.mp h).2

lemma cancel_ne_overflow (h : InRange total g) :
    g.cancel presented leaseId ≠ .error .overflow := by
  refine admitted_bind_ne_overflow fun existing hlease => ?_
  split
  · next hstate =>
    have hreturned := (h.conserves.sound leaseId existing hlease).1.unreturned
      (by rw [hstate]; rfl)
    have hheld : existing.faceValue ≤ existing.held := by
      unfold QuotaLeaseGrant.held
      omega
    exact bind_ne_overflow (add64_ne_overflow (h.pool_add_lt hlease hheld)) fun _ _ => by rintro ⟨⟩
  · rintro ⟨⟩
  · rintro ⟨⟩

lemma ackClose_ne_overflow (h : InRange total g) :
    g.ackClose presented leaseId ≠ .error .overflow := by
  refine admitted_bind_ne_overflow fun existing hlease => ?_
  split
  · next hstate => exact refundRemaining_ne_overflow h hlease (by rw [hstate]; rfl)
  · rintro ⟨⟩
  · rintro ⟨⟩

lemma settleFenced_ne_overflow (h : InRange total g) :
    g.settleFenced presented leaseId ≠ .error .overflow := by
  refine admitted_bind_ne_overflow fun existing hlease => ?_
  split
  · next hstate => exact refundRemaining_ne_overflow h hlease (by rw [hstate]; rfl)
  · rintro ⟨⟩
  · rintro ⟨⟩

/-- The refusal of an old sequence number computes the next one. -/
lemma checkSeq_ne_overflow (h : InRange total g) : g.checkSeq receipt ≠ .error .overflow := by
  unfold checkSeq
  split
  · next last hlast =>
    have hseq := h.seq_lt last ⟨receipt.leaseId, mem_of_getLast? hlast⟩
    split
    · exact bind_ne_overflow (add64_ne_overflow hseq) fun _ _ => by rintro ⟨⟩
    · rintro ⟨⟩
  · rintro ⟨⟩

lemma checkReceipt_ne_overflow : checkReceipt existing receipt ≠ .error .overflow := by
  refine bind_ne_overflow refuse_ne_overflow fun _ _ => ?_
  refine bind_ne_overflow refuse_ne_overflow fun _ _ => ?_
  refine bind_ne_overflow mapError_ne_overflow fun _ _ => ?_
  simp [bind_eq_overflow, refuse_ne_overflow]

lemma applyReceipt_ne_overflow (h : InRange total g) :
    g.applyReceipt receipt ≠ .error .overflow := by
  refine bind_ne_overflow (checkSeq_ne_overflow h) fun _ _ => ?_
  refine bind_ne_overflow expect_ne_overflow fun existing hlease => ?_
  refine bind_ne_overflow checkReceipt_ne_overflow fun _ hcheck => ?_
  have haccepts := accepts_of_checkReceipt hcheck
  have hface := haccepts.faceValue
  have hsum := haccepts.conserved
  have hheld : receipt.returnedToAvailable - existing.returned ≤ existing.held := by
    unfold QuotaLeaseGrant.held
    omega
  have hpool := h.pool_add_lt (expect_eq_ok.mp hlease) hheld
  exact bind_ne_overflow (add64_ne_overflow hpool) fun _ _ => by rintro ⟨⟩

lemma grantForHolder_ne_overflow :
    g.grantForHolder presented leaseId holderCell holderBootGeneration faceValue expiresAt ≠
      .error .overflow := by
  unfold grantForHolder
  split
  · split
    · rintro ⟨⟩
    · simp [bind_eq_overflow, within_eq_overflow, admitFence_ne_overflow, refuse_ne_overflow]
  · refine bind_ne_overflow (within_ne_overflow admitFence_ne_overflow) fun _ _ => ?_
    exact bind_ne_overflow refuse_ne_overflow fun _ _ => by rintro ⟨⟩

lemma activate_ne_overflow : g.activate presented leaseId ≠ .error .overflow := by
  refine admitted_bind_ne_overflow fun _ _ => ?_
  split <;> rintro ⟨⟩

lemma beginClose_ne_overflow : g.beginClose presented leaseId ≠ .error .overflow := by
  refine admitted_bind_ne_overflow fun _ _ => ?_
  split <;> rintro ⟨⟩

lemma quarantineLease_ne_overflow : g.quarantineLease presented leaseId ≠ .error .overflow := by
  refine admitted_bind_ne_overflow fun _ _ => ?_
  split <;> rintro ⟨⟩

lemma reportUsage_ne_overflow :
    g.reportUsage presented leaseId highWater ≠ .error .overflow := by
  refine admitted_bind_ne_overflow fun existing _ => ?_
  split
  · refine bind_ne_overflow ?_ fun _ _ => ?_
    · simp [applyQuotaHighWater, bind_eq_overflow, refuse_ne_overflow, pure, Except.pure]
    · split <;> rintro ⟨⟩
  · refine bind_ne_overflow ?_ fun _ _ => by rintro ⟨⟩
    simp [closingHighWater, bind_eq_overflow, refuse_ne_overflow, pure, Except.pure]
  · rintro ⟨⟩

lemma advanceEpochAndQuarantine_ne_overflow : g.advanceEpochAndQuarantine ≠ .error .overflow := by
  refine bind_ne_overflow expect_ne_overflow fun _ _ => ?_
  refine bind_ne_overflow expect_ne_overflow fun _ _ => ?_
  refine bind_ne_overflow ?_ fun _ _ => by rintro ⟨⟩
  refine bind_ne_overflow expect_ne_overflow fun _ _ => ?_
  exact bind_ne_overflow expect_ne_overflow fun _ _ => by rintro ⟨⟩

lemma fenceBootGenerationOnWalLoss_ne_overflow :
    g.fenceBootGenerationOnWalLoss lost reconnected ≠ .error .overflow := by
  refine bind_ne_overflow refuse_ne_overflow fun _ _ => ?_
  exact bind_ne_overflow (within_ne_overflow advanceEpochAndQuarantine_ne_overflow)
    fun _ _ => by rintro ⟨⟩

lemma replay_ne_overflow : g.replay recorded receipt ≠ .error .overflow := by
  unfold replay
  split
  · exact bind_ne_overflow expect_ne_overflow fun _ _ => by rintro ⟨⟩
  · rintro ⟨⟩

lemma reconcileQuarantined_ne_overflow (h : InRange total g) :
    g.reconcileQuarantined presented receipt ≠ .error .overflow := by
  refine bind_ne_overflow (within_ne_overflow admitFence_ne_overflow) fun _ _ => ?_
  refine bind_ne_overflow refuse_ne_overflow fun _ _ => ?_
  split
  · exact replay_ne_overflow
  · split
    · exact replay_ne_overflow
    · exact applyReceipt_ne_overflow h

lemma closeSource_ne_overflow {ack} (h : InRange total g) :
    g.closeSource presented leaseId ack ≠ .error .overflow := by
  refine bind_ne_overflow (within_ne_overflow admitFence_ne_overflow) fun _ _ => ?_
  refine bind_ne_overflow (within_ne_overflow expect_ne_overflow) fun source _ => ?_
  have hclose : (if source.state = .closing then (g.ackClose presented leaseId).within .ledger
      else pure (g, source) : Call QuotaMigrationError _) ≠ .error .overflow := by
    split
    · exact within_ne_overflow (ackClose_ne_overflow h)
    · rintro ⟨⟩
  split
  · rintro ⟨⟩
  · exact bind_ne_overflow mapError_ne_overflow fun _ _ => hclose
  · exact bind_ne_overflow mapError_ne_overflow fun _ _ => hclose
  · rintro ⟨⟩

lemma grantTarget_ne_overflow :
    g.grantTarget presented leaseId targetFaceValue targetExpiresAt existing ≠
      .error .overflow := by
  refine bind_ne_overflow refuse_ne_overflow fun _ _ => ?_
  exact bind_ne_overflow (within_ne_overflow grantForHolder_ne_overflow) fun _ _ => by rintro ⟨⟩

lemma exists_step_eq_ok (h : InRange total g) (call : QuotaCall) :
    ∃ result, g.step call = .ok result := by
  have hsettle : ∀ {ε α : Type} {x : Call ε (QuotaLeaseGrantor × α)}
      {f : Except ε α → QuotaAnswer}, x ≠ .error .overflow →
      ∃ result, (x.settle g).map (Prod.map id f) = .ok result := by
    intro ε α x f hx
    cases hsettled : x.settle g with
    | error => exact absurd (settle_eq_error.mp hsettled) hx
    | ok => exact ⟨_, rfl⟩
  cases call with
  | grant => exact hsettle grantForHolder_ne_overflow
  | activate => exact hsettle activate_ne_overflow
  | reportUsage => exact hsettle reportUsage_ne_overflow
  | beginClose => exact hsettle beginClose_ne_overflow
  | ackClose => exact hsettle (ackClose_ne_overflow h)
  | cancel => exact hsettle (cancel_ne_overflow h)
  | sweepExpired => exact ⟨_, rfl⟩
  | settleFenced => exact hsettle (settleFenced_ne_overflow h)
  | quarantineLease => exact hsettle quarantineLease_ne_overflow
  | advanceEpochAndQuarantine => exact hsettle advanceEpochAndQuarantine_ne_overflow
  | reconcileQuarantined => exact hsettle (reconcileQuarantined_ne_overflow h)
  | migrateLease presented source ack target face expires =>
    cases hmigrate : g.migrateLease presented source ack target face expires with
    | error =>
      rcases settleThen_eq_error.mp hmigrate with hover | ⟨_, _, _, hover⟩
      · exact absurd hover (closeSource_ne_overflow h)
      · exact absurd (settle_eq_error.mp hover) grantTarget_ne_overflow
    | ok => exact ⟨_, by rw [step, hmigrate]; rfl⟩
  | fenceBootGenerationOnWalLoss => exact hsettle fenceBootGenerationOnWalLoss_ne_overflow

end QuotaLeaseGrantor

def QuotaCall.Numbered (call : QuotaCall) : Prop :=
  ∀ receipt, call.receipt? = some receipt → receipt.reconcileSeq + 1 < 2 ^ 64

namespace QuotaLeaseGrantor

variable {s g t : QuotaLeaseGrantor} {call : QuotaCall} {answer : QuotaAnswer}
  {h : List (Event QuotaLeaseGrantor QuotaCall QuotaAnswer)}

lemma InRange.new {authority} (htotal : total < 2 ^ 64) :
    InRange total (.new authority total) where
  conserves :=
    { sound := fun id lease hlease => by simp [books, QuotaLeaseGrantor.new] at hlease
      escrow := Escrow.empty }
  total_lt := htotal
  seq_lt := by
    rintro receipt ⟨id, hmem⟩
    simp [history, QuotaLeaseGrantor.new] at hmem

/-- A call with numbers in range keeps the books in range. -/
lemma InRange.step (hrange : InRange total g) (hnumbered : call.Numbered)
    (hstep : g.step call = .ok (t, answer)) : InRange total t := by
  have hsteps := steps_of_step (QuotaBooks.Conserves.keyed hrange.conserves) hstep
  refine ⟨hsteps.moves.conserves hrange.conserves, hrange.total_lt, fun receipt hrecorded => ?_⟩
  rcases hsteps.recorded receipt hrecorded with hold | hown
  · exact hrange.seq_lt receipt hold
  · exact hnumbered receipt hown

lemma InRange.run (hrange : InRange total s) (hrun : Run QuotaLeaseGrantor.step s h g)
    (hnumbered : ∀ e ∈ h, e.input.Numbered) : InRange total g ∧ s.books.Rises g.books := by
  induction hrun with
  | refl => exact ⟨hrange, .refl⟩
  | snoc hrun hstep ih =>
    obtain ⟨hbefore, hrises⟩ := ih fun e he => hnumbered e (mem_append_left _ he)
    have hown := hnumbered _ (mem_append_right _ mem_cons_self)
    have hsteps := steps_of_step (QuotaBooks.Conserves.keyed hbefore.conserves) hstep
    exact ⟨hbefore.step hown hstep, hrises.trans (QuotaMoves.rises hsteps.moves hbefore.conserves)⟩

/-- In every run whose receipts leave room for a next sequence number, every lease accounts for
its face value, the pool and the leases hold the initial amount, the marks of a lease have only
risen, and every further call answers. -/
theorem quota_lease_conservation {authority : CellAuthority} {available : Word 8}
    (hrun : Run QuotaLeaseGrantor.step (.new authority available.val) h g)
    (hnumbered : ∀ e ∈ h, e.input.Numbered) :
    (∀ (id : QuotaLeaseId) (lease : QuotaLeaseGrant), g.leases[id]? = some lease →
      lease.faceValue = lease.spent + lease.remaining + lease.returned) ∧
    g.available + Table.sum (fun lease => lease.faceValue - lease.returned) g.leases =
      available.val ∧ (∀ earlier ∈ states h g, ∀ (id : QuotaLeaseId) (v : QuotaLeaseGrant),
      earlier.leases[id]? = some v →
        ∃ w, g.leases[id]? = some w ∧ v.spent ≤ w.spent ∧ v.returned ≤ w.returned) ∧
    ∀ call, ∃ result, g.step call = .ok result := by
  have hstart : InRange available.val (.new authority available.val) :=
    .new (by simp)
  obtain ⟨hrange, -⟩ := hstart.run hrun hnumbered
  refine ⟨fun id lease hlease => (hrange.conserves.sound id lease hlease).1.conserved,
    hrange.conserves.escrow, fun earlier hearlier => ?_, exists_step_eq_ok hrange⟩
  obtain ⟨h₁, h₂, rfl, hrun₁, hrun₂⟩ := hrun.split_at hearlier
  obtain ⟨hmiddle, -⟩ :=
    hstart.run hrun₁ fun e he => hnumbered e (mem_append_left _ he)
  exact (hmiddle.run hrun₂ fun e he => hnumbered e (mem_append_right _ he)).2

end QuotaLeaseGrantor

namespace QuotaSample

def authority : CellAuthority := ⟨7, 1, 1, 1⟩

def quarantining : List QuotaCall :=
  [.grant authority.fence 1 10 none, .quarantineLease authority.fence 1]

def receipt (receiptId : ReceiptId) (reconcileSeq : ℕ) : QuotaReconciliationReceipt where
  receiptId := receiptId
  leaseId := 1
  reconcileSeq := reconcileSeq
  cell := authority.identity
  nodeBootGeneration := 1
  epoch := 1
  fencingToken := 1
  faceValue := 10
  highWaterSpent := 0
  settledSpent := 0
  returnedToAvailable := 0
  remainingQuarantined := 10
  fenceBarrierAck := .ofFields 1 ⟨authority.identity⟩ 1 1 9 0

def reconciling (receiptId : ReceiptId) (reconcileSeq : ℕ) : QuotaCall :=
  .reconcileQuarantined authority.fence (receipt receiptId reconcileSeq)

def settling (reconcileSeq : ℕ) : List QuotaCall :=
  quarantining ++ [reconciling 1 reconcileSeq]

end QuotaSample

open QuotaSample

theorem quota_lease_conservation_settling :
    ∃ h g, Run QuotaLeaseGrantor.step (.new authority (10 : Word 8).val) h g ∧
      h.map Event.input = settling 1 ∧
      g.available + Table.sum (fun lease => lease.faceValue - lease.returned) g.leases =
        (10 : Word 8).val ∧ ∀ call, ∃ result, g.step call = .ok result := by
  have hruns : runCheck QuotaLeaseGrantor.step (.new authority (10 : Word 8).val) (settling 1)
      (fun _ _ => true) = true := by decide +kernel
  obtain ⟨h, g, hrun, hinputs, -⟩ := exists_run_of_runCheck hruns
  have hnumbered : ∀ e ∈ h, e.input.Numbered := by
    intro e he
    have hmem : e.input ∈ settling 1 := hinputs ▸ mem_map_of_mem he
    simp only [settling, quarantining, reconciling, cons_append, nil_append,
      mem_cons, not_mem_nil, or_false] at hmem
    rcases hmem with hcall | hcall | hcall <;> rw [hcall] <;> intro r hr
    · cases hr
    · cases hr
    · rw [← Option.some.inj hr]
      decide
  obtain ⟨-, hsum, -, hanswers⟩ :=
    QuotaLeaseGrantor.quota_lease_conservation hrun hnumbered
  exact ⟨h, g, hrun, hinputs, hsum, hanswers⟩

/-- A receipt numbered with the last 64-bit number is accepted, and refusing the next one
overflows. -/
theorem reconcileQuarantined_overflows :
    ∃ h g, Run QuotaLeaseGrantor.step (.new authority (10 : Word 8).val) h g ∧
      h.map Event.input = settling (2 ^ 64 - 1) ∧ g.step (reconciling 2 1) = .error () := by
  have hruns : runCheck QuotaLeaseGrantor.step (.new authority (10 : Word 8).val)
      (settling (2 ^ 64 - 1)) (fun _ g => !(g.step (reconciling 2 1)).isOk) = true := by
    decide +kernel
  obtain ⟨h, g, hrun, hinputs, hcheck⟩ := exists_run_of_runCheck hruns
  refine ⟨h, g, hrun, hinputs, ?_⟩
  cases hstep : g.step (reconciling 2 1) with
  | error => rfl
  | ok => simp [hstep, Except.isOk, Except.toBool] at hcheck

end Nlos.Lease
