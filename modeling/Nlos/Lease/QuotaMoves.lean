import Nlos.Lease.Quota
import Nlos.Lib.Escrow

/-!
# What a quota operation does to the books

Seen from outside, the books are the pool and the leases. An operation is a sequence of moves: a
lease is taken out of the pool, or a stored lease is revised and the pool gains what the lease
returned.
-/

namespace Nlos.Lease

open Lib

variable {ε : Type} {state : QuotaLeaseState}

structure QuotaLeaseGrant.Sound (lease : QuotaLeaseGrant) : Prop where
  conserved : lease.faceValue = lease.spent + lease.remaining + lease.returned
  unspent : lease.state = .issued → lease.spent = 0
  unreturned : lease.state.unsettled = true → lease.returned = 0

def QuotaLeaseGrant.held (lease : QuotaLeaseGrant) : ℕ := lease.faceValue - lease.returned

/-- A new version of a lease: its terms stay, its marks do not fall. -/
structure QuotaLeaseGrant.Revises (v w : QuotaLeaseGrant) : Prop where
  sound : w.Sound
  leaseId : w.leaseId = v.leaseId
  cell : w.cell = v.cell
  nodeBootGeneration : w.nodeBootGeneration = v.nodeBootGeneration
  faceValue : w.faceValue = v.faceValue
  epoch : w.epoch = v.epoch
  fencingToken : w.fencingToken = v.fencingToken
  fenceScope : w.fenceScope = v.fenceScope
  spent_le : v.spent ≤ w.spent
  returned_le : v.returned ≤ w.returned

def QuotaLeaseGrant.SoundAt (id : QuotaLeaseId) (lease : QuotaLeaseGrant) : Prop :=
  lease.Sound ∧ lease.leaseId = id

/-- A revision under a receipt or without one: a settled lease is never revised, a quarantined
one only as its receipt says. -/
def QuotaLeaseGrant.RevisesUnder (receipt? : Option QuotaReconciliationReceipt)
    (v w : QuotaLeaseGrant) : Prop :=
  v.Revises w ∧ (v.state.unsettled = true ∨ v.state = .quarantined ∧
    ∃ receipt, receipt? = some receipt ∧ w = QuotaLeaseGrantor.reconciled v receipt)

abbrev QuotaBooks := Pooled QuotaLeaseId QuotaLeaseGrant compare

def QuotaLeaseGrantor.books (g : QuotaLeaseGrantor) : QuotaBooks := ⟨g.available, g.leases⟩

abbrev QuotaMove (receipt? : Option QuotaReconciliationReceipt) : QuotaBooks → QuotaBooks → Prop :=
  Pooled.Move QuotaLeaseGrant.SoundAt QuotaLeaseGrant.held
    (QuotaLeaseGrant.RevisesUnder receipt?)

abbrev QuotaMoves (receipt? : Option QuotaReconciliationReceipt) : QuotaBooks → QuotaBooks → Prop :=
  Pooled.Moves QuotaLeaseGrant.SoundAt QuotaLeaseGrant.held
    (QuotaLeaseGrant.RevisesUnder receipt?)

lemma QuotaMove.of_revises {receipt? : Option QuotaReconciliationReceipt}
    {available available' leases id v w} (hlease : leases[id]? = some v)
    (hrevises : v.Sound → v.Revises w ∧ available' + v.returned = available + w.returned)
    (hcause : v.state.unsettled = true ∨ v.state = .quarantined ∧
      ∃ receipt, receipt? = some receipt ∧ w = QuotaLeaseGrantor.reconciled v receipt) :
    QuotaMove receipt? ⟨available, leases⟩ ⟨available', leases.insert id w⟩ := by
  refine .revise hlease ?_
  rintro ⟨hsound, hid⟩
  obtain ⟨hrev, hpool⟩ := hrevises hsound
  refine ⟨⟨hrev.sound, hrev.leaseId.trans hid⟩, ⟨hrev, hcause⟩, ?_⟩
  have hv := hsound.conserved
  have hw := hrev.sound.conserved
  have hface := hrev.faceValue
  unfold QuotaLeaseGrant.held
  omega

namespace QuotaLeaseGrantor

variable {g t : QuotaLeaseGrantor} {presented : CellFence} {leaseId : QuotaLeaseId}
  {lease existing next : QuotaLeaseGrant} {receipt? : Option QuotaReconciliationReceipt}

lemma admitted_eq_ok : g.admitted presented leaseId = .ok existing ↔
    presented = g.authority.fence ∧ g.leases[leaseId]? = some existing := by
  simp [admitted, query, bind_eq_ok, within_eq_ok, CellAuthority.admitFence_eq_ok, expect_eq_ok]

lemma revises_of_state (hissued : state ≠ .issued)
    (hunsettled : existing.state.unsettled = true) (hsound : existing.Sound) :
    existing.Revises { existing with state := state } where
  sound :=
    { conserved := hsound.conserved
      unspent := fun h => absurd h hissued
      unreturned := fun _ => hsound.unreturned hunsettled }
  leaseId := rfl
  cell := rfl
  nodeBootGeneration := rfl
  faceValue := rfl
  epoch := rfl
  fencingToken := rfl
  fenceScope := rfl
  spent_le := le_rfl
  returned_le := le_rfl

structure Booked (g t : QuotaLeaseGrantor) : Prop where
  moves : QuotaMoves none g.books t.books
  receipts : t.reconciliationReceipts = g.reconciliationReceipts

lemma Booked.refl : Booked g g := ⟨.refl, rfl⟩

lemma Booked.trans (hgt : Booked g t) (htu : Booked t u) : Booked g u :=
  ⟨hgt.moves.trans htu.moves, htu.receipts.trans hgt.receipts⟩

lemma booked_of_same (h : (pure (g, existing) : Call ε _) = .ok (t, lease)) : Booked g t := by
  obtain ⟨rfl, -⟩ := Prod.mk.inj (pure_eq_ok.mp h)
  exact .refl

lemma booked_of_put (hlease : g.leases[leaseId]? = some existing)
    (hunsettled : existing.state.unsettled = true)
    (hrevises : existing.Sound → existing.Revises next ∧ next.returned = existing.returned)
    (h : (pure (g.put leaseId next) : Call ε _) = .ok (t, lease)) : Booked g t := by
  obtain ⟨rfl, -⟩ := Prod.mk.inj (pure_eq_ok.mp h)
  refine ⟨.single (QuotaMove.of_revises hlease (fun hsound => ?_) (.inl hunsettled)), rfl⟩
  obtain ⟨hrev, hret⟩ := hrevises hsound
  exact ⟨hrev, by rw [hret]⟩

lemma booked_of_put_state
    (hlease : g.leases[leaseId]? = some existing) (hissued : state ≠ .issued)
    (hunsettled : existing.state.unsettled = true)
    (h : (pure (g.put leaseId { existing with state := state }) : Call ε _) = .ok (t, lease)) :
    Booked g t :=
  booked_of_put hlease hunsettled
    (fun hsound => ⟨revises_of_state hissued hunsettled hsound, rfl⟩) h

/-! ### The operations on one lease -/

lemma grantForHolder_booked
    (h : g.grantForHolder presented leaseId holderCell holderBootGeneration faceValue expiresAt =
      .ok (t, lease)) : Booked g t := by
  unfold grantForHolder at h
  split at h
  · split at h
    · exact booked_of_same h
    · simp only [bind_eq_ok] at h
      obtain ⟨-, -, -, -, -, -, -, -, h⟩ := h
      cases h
  · next hnew =>
    simp only [bind_eq_ok, refuse_eq_ok, Nat.not_lt] at h
    obtain ⟨-, -, -, hle, h⟩ := h
    obtain ⟨rfl, -⟩ := Prod.mk.inj (pure_eq_ok.mp h)
    refine ⟨.single (.take hnew ⟨⟨?_, fun _ => rfl, fun _ => rfl⟩, rfl⟩
      (Nat.sub_add_cancel hle)), rfl⟩
    simp

lemma activate_booked (h : g.activate presented leaseId = .ok (t, lease)) : Booked g t := by
  simp only [activate, bind_eq_ok, admitted_eq_ok] at h
  obtain ⟨existing, ⟨-, hlease⟩, h⟩ := h
  split at h
  · next hstate => exact booked_of_put_state hlease (by decide) (by rw [hstate]; rfl) h
  · exact booked_of_same h
  · cases h

/-- A lease under a higher mark of use. -/
lemma revises_of_highWater (hactive : existing.state = .active)
    (hspent : existing.spent ≤ highWater) (hface : highWater ≤ existing.faceValue)
    (hsound : existing.Sound) : existing.Revises
      { existing with spent := highWater, remaining := existing.faceValue - highWater } where
  sound :=
    { conserved := by
        have hreturned := hsound.unreturned (by rw [hactive]; rfl)
        show existing.faceValue =
          highWater + (existing.faceValue - highWater) + existing.returned
        omega
      unspent := fun h => absurd (hactive.symm.trans h) (by decide)
      unreturned := hsound.unreturned }
  leaseId := rfl
  cell := rfl
  nodeBootGeneration := rfl
  faceValue := rfl
  epoch := rfl
  fencingToken := rfl
  fenceScope := rfl
  spent_le := hspent
  returned_le := le_rfl

lemma reportUsage_booked
    (h : g.reportUsage presented leaseId highWater = .ok (t, lease)) : Booked g t := by
  simp only [reportUsage, bind_eq_ok, admitted_eq_ok] at h
  obtain ⟨existing, ⟨-, hlease⟩, h⟩ := h
  split at h
  · next hactive =>
    simp only [applyQuotaHighWater, bind_eq_ok, refuse_eq_ok, Nat.not_lt, pure_eq_ok] at h
    obtain ⟨next, ⟨-, hspent, -, hface, rfl⟩, h⟩ := h
    split at h
    · refine booked_of_put hlease (by rw [hactive]; rfl) (fun hsound => ?_) h
      exact ⟨revises_of_highWater hactive hspent hface hsound, rfl⟩
    · exact booked_of_same h
  · simp only [bind_eq_ok] at h
    obtain ⟨_, _, h⟩ := h
    exact booked_of_same h
  · cases h

lemma beginClose_booked (h : g.beginClose presented leaseId = .ok (t, lease)) : Booked g t := by
  simp only [beginClose, bind_eq_ok, admitted_eq_ok] at h
  obtain ⟨existing, ⟨-, hlease⟩, h⟩ := h
  split at h
  · next hstate => exact booked_of_put_state hlease (by decide) (by rw [hstate]; rfl) h
  · exact booked_of_same h
  · cases h

lemma quarantineLease_booked (h : g.quarantineLease presented leaseId = .ok (t, lease)) :
    Booked g t := by
  simp only [quarantineLease, bind_eq_ok, admitted_eq_ok] at h
  obtain ⟨existing, ⟨-, hlease⟩, h⟩ := h
  split at h
  all_goals first
    | next hstate => exact booked_of_put_state hlease (by decide) (by rw [hstate]; rfl) h
    | exact booked_of_same h
    | cases h

lemma refundRemaining_booked (hlease : g.leases[leaseId]? = some existing)
    (hunsettled : existing.state.unsettled = true)
    (h : g.refundRemaining leaseId existing = .ok (t, lease)) : Booked g t := by
  simp only [refundRemaining, bind_eq_ok, add64_eq_ok] at h
  obtain ⟨-, ⟨-, rfl⟩, -, ⟨-, rfl⟩, h⟩ := h
  obtain ⟨rfl, -⟩ := Prod.mk.inj (pure_eq_ok.mp h)
  refine ⟨.single (QuotaMove.of_revises hlease (fun hsound => ⟨?_, ?_⟩) (.inl hunsettled)), rfl⟩
  · have hconserved := hsound.conserved
    refine ⟨⟨?_, fun h => (by cases h), fun h => (by cases h)⟩, rfl, rfl, rfl, rfl, rfl, rfl, rfl,
      le_rfl, Nat.le_add_right _ _⟩
    show existing.faceValue = existing.spent + 0 + (existing.returned + existing.remaining)
    omega
  · show g.available + existing.remaining + existing.returned =
      g.available + (existing.returned + existing.remaining)
    omega

lemma ackClose_booked (h : g.ackClose presented leaseId = .ok (t, lease)) : Booked g t := by
  simp only [ackClose, bind_eq_ok, admitted_eq_ok] at h
  obtain ⟨existing, ⟨-, hlease⟩, h⟩ := h
  split at h
  · next hstate => exact refundRemaining_booked hlease (by rw [hstate]; rfl) h
  · exact booked_of_same h
  · cases h

lemma settleFenced_booked (h : g.settleFenced presented leaseId = .ok (t, lease)) :
    Booked g t := by
  simp only [settleFenced, bind_eq_ok, admitted_eq_ok] at h
  obtain ⟨existing, ⟨-, hlease⟩, h⟩ := h
  split at h
  · next hstate => exact refundRemaining_booked hlease (by rw [hstate]; rfl) h
  · exact booked_of_same h
  · cases h

/-- An issued lease is unspent, so its whole face value goes back. -/
lemma cancel_booked (h : g.cancel presented leaseId = .ok (t, lease)) : Booked g t := by
  simp only [cancel, bind_eq_ok, admitted_eq_ok] at h
  obtain ⟨existing, ⟨-, hlease⟩, h⟩ := h
  split at h
  · next hstate =>
    simp only [bind_eq_ok, add64_eq_ok] at h
    obtain ⟨-, ⟨-, rfl⟩, h⟩ := h
    obtain ⟨rfl, -⟩ := Prod.mk.inj (pure_eq_ok.mp h)
    have hunsettled : existing.state.unsettled = true := by rw [hstate]; rfl
    refine ⟨.single (QuotaMove.of_revises hlease (fun hsound => ⟨?_, ?_⟩) (.inl hunsettled)), rfl⟩
    · have hspent := hsound.unspent hstate
      have hreturned := hsound.unreturned hunsettled
      refine ⟨⟨?_, fun h => (by cases h), fun h => (by cases h)⟩, rfl, rfl, rfl, rfl, rfl, rfl,
        rfl, hspent.le, ?_⟩
      · show existing.faceValue = 0 + 0 + existing.faceValue
        omega
      · show existing.returned ≤ existing.faceValue
        omega
    · have hreturned := hsound.unreturned hunsettled
      show g.available + existing.faceValue + existing.returned =
        g.available + existing.faceValue
      omega
  · exact booked_of_same h
  · cases h

abbrev Keyed (leases : Table QuotaLeaseId QuotaLeaseGrant) : Prop :=
  Table.KeyedBy QuotaLeaseGrant.leaseId leases

/-- Marking several unsettled leases moves each of them once. -/
lemma setStates_moves {available leases ids} (hissued : state ≠ .issued) (hnodup : ids.Nodup)
    (hids : ∀ id ∈ ids, ∃ v, leases[id]? = some v ∧ v.state.unsettled = true) :
    QuotaMoves receipt? ⟨available, leases⟩ ⟨available, setStates state leases ids⟩ := by
  refine Pooled.moves_modifyAll (fun id v (hunsettled : v.state.unsettled = true) => ?_) ids _
    hnodup hids
  rintro ⟨hsound, hid⟩
  have hrev := revises_of_state hissued hunsettled hsound
  exact ⟨⟨hrev.sound, hid⟩, ⟨hrev, .inl hunsettled⟩, rfl⟩

lemma unsettled_of_expirable (h : state.expirable = true) : state.unsettled = true := by
  cases state <;> first | rfl | cases h

lemma sweepExpired_booked {now} (hkeyed : Keyed g.leases) : Booked g (g.sweepExpired now).1 := by
  refine ⟨setStates_moves (by decide) (Table.nodup_keysWhere hkeyed) ?_, rfl⟩
  intro id hid
  obtain ⟨v, hv, hp⟩ := Table.mem_keysWhere hkeyed hid
  exact ⟨v, hv, unsettled_of_expirable (Bool.and_eq_true_iff.mp hp).2⟩

lemma advanceEpochAndQuarantine_booked {fence} (hkeyed : Keyed g.leases)
    (h : g.advanceEpochAndQuarantine = .ok (t, fence)) : Booked g t := by
  simp only [advanceEpochAndQuarantine, bind_eq_ok] at h
  obtain ⟨_, _, _, _, _, _, h⟩ := h
  obtain ⟨rfl, -⟩ := Prod.mk.inj (pure_eq_ok.mp h)
  refine ⟨setStates_moves (by decide) (Table.nodup_keysWhere hkeyed) ?_, rfl⟩
  intro id hid
  obtain ⟨v, hv, hp⟩ := Table.mem_keysWhere hkeyed hid
  exact ⟨v, hv, (Bool.and_eq_true_iff.mp hp).2⟩

lemma fenceBootGenerationOnWalLoss_booked (hkeyed : Keyed g.leases)
    (h : g.fenceBootGenerationOnWalLoss lost reconnected = .ok (t, answer)) : Booked g t := by
  simp only [fenceBootGenerationOnWalLoss, bind_eq_ok, within_eq_ok] at h
  obtain ⟨_, _, ⟨next, fence⟩, hadvance, h⟩ := h
  obtain ⟨rfl, -⟩ := Prod.mk.inj (pure_eq_ok.mp h)
  exact advanceEpochAndQuarantine_booked hkeyed hadvance

lemma closeSource_booked {ack}
    (h : g.closeSource presented leaseId ack = .ok (t, lease)) : Booked g t := by
  simp only [closeSource, bind_eq_ok, within_eq_ok] at h
  obtain ⟨_, _, source, _, h⟩ := h
  split at h
  · cases h
  · next hstate =>
    simp only [bind_eq_ok, hstate, if_true] at h
    obtain ⟨_, _, h⟩ := h
    exact ackClose_booked (within_eq_ok.mp h)
  · next hstate =>
    simp only [bind_eq_ok, hstate, reduceCtorEq, if_false] at h
    obtain ⟨_, _, h⟩ := h
    exact booked_of_same h
  · cases h

lemma grantTarget_booked
    (h : g.grantTarget presented leaseId targetFaceValue targetExpiresAt existing =
      .ok (t, outcome)) : Booked g t := by
  simp only [grantTarget, bind_eq_ok, within_eq_ok] at h
  obtain ⟨_, _, ⟨next, target⟩, hgrant, h⟩ := h
  obtain ⟨rfl, -⟩ := Prod.mk.inj (pure_eq_ok.mp h)
  exact grantForHolder_booked hgrant

lemma migrateLease_booked {ack targetLeaseId targetFaceValue targetExpiresAt r}
    (h : g.migrateLease presented leaseId ack targetLeaseId targetFaceValue targetExpiresAt =
      .ok (t, r)) : Booked g t := by
  rcases settleThen_eq_ok h with ⟨closed, source, hclose, hgrant⟩ | rfl
  · rcases settle_eq_ok.mp hgrant with ⟨outcome, hgrant, -⟩ | ⟨-, -, rfl, -⟩
    · exact (closeSource_booked hclose).trans (grantTarget_booked hgrant)
    · exact closeSource_booked hclose
  · exact .refl

section Receipt

variable {receipt : QuotaReconciliationReceipt}

structure Accepts (existing : QuotaLeaseGrant) (receipt : QuotaReconciliationReceipt) : Prop where
  state : existing.state = .quarantined ∨ existing.state = .fenced
  faceValue : receipt.faceValue = existing.faceValue
  ack : verifyQuotaFenceAck receipt.fenceBarrierAck existing receipt.highWaterSpent = .ok ()
  spent_le : existing.spent ≤ receipt.highWaterSpent
  returned_le : existing.returned ≤ receipt.returnedToAvailable
  settled : receipt.settledSpent = receipt.highWaterSpent
  conserved : receipt.settledSpent + receipt.returnedToAvailable + receipt.remainingQuarantined =
    receipt.faceValue

lemma conserved_of_verifyConservation (h : receipt.verifyConservation = true) :
    receipt.settledSpent = receipt.highWaterSpent ∧
      receipt.settledSpent + receipt.returnedToAvailable + receipt.remainingQuarantined =
        receipt.faceValue := by
  obtain ⟨hsettled, -, -, hsum⟩ := of_decide_eq_true h
  exact ⟨hsettled, hsum⟩

lemma accepts_of_checkReceipt (h : checkReceipt existing receipt = .ok u) :
    Accepts existing receipt := by
  simp only [checkReceipt, bind_eq_ok, refuse_eq_ok, mapError_eq_ok, not_or, not_not, Nat.not_lt,
    not_and_or, Bool.not_eq_false] at h
  obtain ⟨_, hstate, _, hbind, _, hack, _, hspent, _, _, _, hreturned, hconserved⟩ := h
  obtain ⟨hsettled, hsum⟩ := conserved_of_verifyConservation hconserved
  exact ⟨hstate, hbind.2.2.2.2, hack, hspent, hreturned, hsettled, hsum⟩

lemma Accepts.revises (h : Accepts existing receipt) :
    existing.Revises (reconciled existing receipt) := by
  have hstate : (reconciled existing receipt).state = .closed ∨
      (reconciled existing receipt).state = .quarantined := by
    by_cases hzero : receipt.remainingQuarantined = 0 <;> simp [reconciled, hzero]
  refine ⟨⟨?_, fun hissued => ?_, fun hunsettled => ?_⟩, rfl, rfl, rfl, rfl, rfl, rfl, rfl, ?_,
    h.returned_le⟩
  · have hface := h.faceValue
    have hsum := h.conserved
    show existing.faceValue = receipt.settledSpent + receipt.remainingQuarantined +
      receipt.returnedToAvailable
    omega
  · rcases hstate with hs | hs <;> rw [hissued] at hs <;> cases hs
  · rcases hstate with hs | hs <;> rw [hs] at hunsettled <;> cases hunsettled
  · have hsettled := h.settled
    have hspent := h.spent_le
    show existing.spent ≤ receipt.settledSpent
    omega

/-- An accepted receipt returns what its lease had not returned before. -/
lemma applyReceipt_spec (h : g.applyReceipt receipt = .ok (t, lease)) :
    ∃ existing, g.leases[receipt.leaseId]? = some existing ∧ Accepts existing receipt ∧ t = { g with
          available := g.available + (receipt.returnedToAvailable - existing.returned)
          leases := g.leases.insert receipt.leaseId (reconciled existing receipt)
          reconciliationReceipts := g.reconciliationReceipts.insert receipt.leaseId
            (g.history receipt.leaseId ++ [receipt]) } := by
  simp only [applyReceipt, bind_eq_ok, expect_eq_ok, add64_eq_ok] at h
  obtain ⟨_, _, existing, hlease, _, hcheck, _, ⟨-, rfl⟩, h⟩ := h
  obtain ⟨rfl, -⟩ := Prod.mk.inj (pure_eq_ok.mp h)
  exact ⟨existing, hlease, accepts_of_checkReceipt hcheck, rfl⟩

lemma reconcileQuarantined_cases (h : g.reconcileQuarantined presented receipt = .ok (t, lease)) :
    t = g ∨ g.applyReceipt receipt = .ok (t, lease) := by
  have hreplay : ∀ recorded, g.replay recorded receipt = .ok (t, lease) → t = g := by
    intro recorded h
    unfold replay at h
    split at h
    · simp only [bind_eq_ok] at h
      obtain ⟨_, _, h⟩ := h
      exact (Prod.mk.inj (pure_eq_ok.mp h)).1.symm
    · cases h
  simp only [reconcileQuarantined, bind_eq_ok] at h
  obtain ⟨_, _, _, _, h⟩ := h
  split at h
  · exact .inl (hreplay _ h)
  · split at h
    · exact .inl (hreplay _ h)
    · exact .inr h

lemma applyReceipt_move (h : g.applyReceipt receipt = .ok (t, lease)) :
    QuotaMove (some receipt) g.books t.books := by
  obtain ⟨existing, hlease, haccepts, rfl⟩ := applyReceipt_spec h
  refine QuotaMove.of_revises hlease (fun _ => ⟨haccepts.revises, ?_⟩) ?_
  · have hreturned := haccepts.returned_le
    show g.available + (receipt.returnedToAvailable - existing.returned) + existing.returned =
      g.available + receipt.returnedToAvailable
    omega
  · rcases haccepts.state with hs | hs
    · exact .inr ⟨hs, receipt, rfl, rfl⟩
    · exact .inl (by rw [hs]; rfl)

end Receipt

end QuotaLeaseGrantor

def QuotaCall.receipt? : QuotaCall → Option QuotaReconciliationReceipt
  | .reconcileQuarantined _ receipt => some receipt
  | _ => none

namespace QuotaLeaseGrantor

variable {g t : QuotaLeaseGrantor} {call : QuotaCall} {answer : QuotaAnswer}

def Recorded (g : QuotaLeaseGrantor) (receipt : QuotaReconciliationReceipt) : Prop :=
  ∃ id : QuotaLeaseId, receipt ∈ g.history id

structure Steps (call : QuotaCall) (g t : QuotaLeaseGrantor) : Prop where
  moves : QuotaMoves call.receipt? g.books t.books
  recorded : ∀ receipt, t.Recorded receipt → g.Recorded receipt ∨ call.receipt? = some receipt

lemma Booked.steps (hnone : call.receipt? = none) (h : Booked g t) : Steps call g t := by
  refine ⟨hnone ▸ h.moves, fun receipt hrecorded => .inl ?_⟩
  simpa [Recorded, history, h.receipts] using hrecorded

lemma settled_inv {α : Type} {f} {x : Call ε (QuotaLeaseGrantor × α)}
    (h : (x.settle g).map (Prod.map id f) = .ok (t, answer)) : t = g ∨ ∃ a, x = .ok (t, a) := by
  rcases x with (e | _) | ⟨u, a⟩
  · obtain ⟨rfl, -⟩ : g = t ∧ _ := by simpa [Call.settle, Except.map] using h
    exact .inl rfl
  · cases h
  · obtain ⟨rfl, -⟩ : u = t ∧ _ := by simpa [Call.settle, Except.map] using h
    exact .inr ⟨a, rfl⟩

lemma steps_of_settled {α : Type} {f}
    {x : Call ε (QuotaLeaseGrantor × α)} (hnone : call.receipt? = none)
    (hbooked : ∀ a, x = .ok (t, a) → Booked g t)
    (h : (x.settle g).map (Prod.map id f) = .ok (t, answer)) : Steps call g t := by
  rcases settled_inv h with rfl | ⟨a, ha⟩
  · exact Booked.refl.steps hnone
  · exact (hbooked a ha).steps hnone

lemma mem_history_insert {id key receipt history}
    (h : receipt ∈ ((g.reconciliationReceipts.insert key history)[id]?).getD []) :
    receipt ∈ history ∨ receipt ∈ g.history id := by
  rw [Table.getElem?_insert_eq] at h
  split at h
  · exact .inl h
  · exact .inr h

lemma applyReceipt_steps {presented receipt lease} (h : g.applyReceipt receipt = .ok (t, lease)) :
    Steps (.reconcileQuarantined presented receipt) g t := by
  refine ⟨.single (applyReceipt_move h), ?_⟩
  obtain ⟨existing, -, -, rfl⟩ := applyReceipt_spec h
  rintro recorded ⟨id, hmem⟩
  rcases mem_history_insert hmem with hown | hother
  · rcases List.mem_append.mp hown with hold | hnew
    · exact .inl ⟨receipt.leaseId, hold⟩
    · exact .inr (by rw [List.mem_singleton.mp hnew]; rfl)
  · exact .inl ⟨id, hother⟩

/-- Every call of the grantor is a sequence of moves of its books. -/
lemma steps_of_step (hkeyed : Keyed g.leases) (h : g.step call = .ok (t, answer)) :
    Steps call g t := by
  cases call with
  | grant => exact steps_of_settled rfl (fun _ => grantForHolder_booked) h
  | activate => exact steps_of_settled rfl (fun _ => activate_booked) h
  | reportUsage => exact steps_of_settled rfl (fun _ => reportUsage_booked) h
  | beginClose => exact steps_of_settled rfl (fun _ => beginClose_booked) h
  | ackClose => exact steps_of_settled rfl (fun _ => ackClose_booked) h
  | cancel => exact steps_of_settled rfl (fun _ => cancel_booked) h
  | sweepExpired =>
    obtain ⟨rfl, -⟩ := Prod.mk.inj (Except.ok.inj h)
    exact (sweepExpired_booked hkeyed).steps rfl
  | settleFenced => exact steps_of_settled rfl (fun _ => settleFenced_booked) h
  | quarantineLease => exact steps_of_settled rfl (fun _ => quarantineLease_booked) h
  | advanceEpochAndQuarantine =>
    exact steps_of_settled rfl (fun _ => advanceEpochAndQuarantine_booked hkeyed) h
  | reconcileQuarantined =>
    rcases settled_inv h with rfl | ⟨lease, hreconcile⟩
    · exact ⟨.refl, fun _ => .inl⟩
    · rcases reconcileQuarantined_cases hreconcile with rfl | happly
      · exact ⟨.refl, fun _ => .inl⟩
      · exact applyReceipt_steps happly
  | migrateLease presented source ack target face expires =>
    cases hmigrate : g.migrateLease presented source ack target face expires with
    | error => simp [step, hmigrate, Except.map] at h
    | ok result =>
      obtain ⟨u, r⟩ := result
      obtain ⟨rfl, -⟩ : u = t ∧ _ := by simpa [step, hmigrate, Except.map] using h
      exact (migrateLease_booked hmigrate).steps rfl
  | fenceBootGenerationOnWalLoss =>
    exact steps_of_settled rfl (fun _ => fenceBootGenerationOnWalLoss_booked hkeyed) h

end QuotaLeaseGrantor

end Nlos.Lease
