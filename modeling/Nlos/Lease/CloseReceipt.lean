import Nlos.Lease.QuotaConservation

/-!
# Signed close receipts

A pin names the principal that may sign for a holder. Pins are kept in memory only: a coordinator
opened again on its store has none, and then any signer is accepted.
-/

namespace Nlos.Lease

open Lib

abbrev PrincipalId := Word 16
abbrev KeyId := Word 16

structure SignedLeaseCloseReceipt where
  receiptId : ReceiptId
  leaseId : QuotaLeaseId
  holderCell : CellIdentity
  (holderBootGeneration epoch fencingToken faceValue finalHighWaterSpent returnedUnspent : ℕ)
  signerPrincipalId : PrincipalId
  signerKeyId : KeyId
  signerKeyGeneration : ℕ
  ed25519Signature : Word 64
deriving DecidableEq

inductive QuarantineDisposition where
  | activeOrSettled
  | ledgerQuarantinedFenceOnly
  | physicallyCleanedVerified
deriving DecidableEq

structure GrantorHorizonRecord where
  requiredGateways : List (Word 16)
  disposition : QuarantineDisposition

inductive ClockHorizonError where
  | fence (e : CellAdmitError)
  | quotaLedger (e : QuotaLeaseLedgerError)
  | quotaReconcile (e : QuotaReconcileError)
  | closeReceiptConservationMismatch (faceValue finalHighWaterSpent returnedUnspent : ℕ)
  | peerSignatureRejected
  | conflictingCloseReceipt (existing requested : ReceiptId)
  | holderCellImpersonation (callerCell expectedHolderCell : CellIdentity)
  | holderPrincipalMismatch (holderCell : CellIdentity)
      (expectedPrincipal presentedPrincipal : PrincipalId)
  | unknownLeaseHorizon (leaseId : QuotaLeaseId)
  | invalidMultiEndpointScope (reason : String)

structure GrantorClockBoundedCoordinator where
  quota : QuotaLeaseGrantor
  horizons : Table QuotaLeaseId GrantorHorizonRecord
  closeReceipts : Table QuotaLeaseId SignedLeaseCloseReceipt
  pinnedHolderPrincipals : Table CellIdentity PrincipalId

/-- The checks of `verify`, with the verdict of the peer verifier on the signature. -/
def SignedLeaseCloseReceipt.verify (receipt : SignedLeaseCloseReceipt) (verdict : Bool) :
    Call ClockHorizonError Unit := do
  refuse (2 ^ 64 ≤ receipt.finalHighWaterSpent + receipt.returnedUnspent ∨
      receipt.finalHighWaterSpent + receipt.returnedUnspent ≠ receipt.faceValue)
    (.closeReceiptConservationMismatch receipt.faceValue receipt.finalHighWaterSpent
      receipt.returnedUnspent)
  refuse (verdict = false) .peerSignatureRejected

def SignedLeaseCloseReceipt.reconciliation (receipt : SignedLeaseCloseReceipt)
    (lease : QuotaLeaseGrant) (gateway : Word 16) (reconcileSeq : ℕ) : QuotaReconciliationReceipt :=
  ⟨receipt.receiptId, lease.leaseId, reconcileSeq, lease.cell, lease.nodeBootGeneration,
    lease.epoch, lease.fencingToken, lease.faceValue, receipt.finalHighWaterSpent,
    receipt.finalHighWaterSpent, receipt.returnedUnspent, 0,
    .ofFields lease.leaseId lease.fenceScope lease.epoch lease.fencingToken gateway
      receipt.finalHighWaterSpent⟩

def GrantorHorizonRecord.settled (record : GrantorHorizonRecord) : GrantorHorizonRecord :=
  if record.disposition = .physicallyCleanedVerified then record
  else { record with disposition := .activeOrSettled }

namespace GrantorClockBoundedCoordinator

variable (c : GrantorClockBoundedCoordinator) (presented : CellFence)
  (receipt : SignedLeaseCloseReceipt)

def openWithStore : GrantorClockBoundedCoordinator := { c with pinnedHolderPrincipals := ∅ }

def verifyHolderPrincipalPin (cell : CellIdentity) (principal : PrincipalId) :
    Call ClockHorizonError Unit :=
  match c.pinnedHolderPrincipals[cell]? with
  | some pinned => refuse (pinned ≠ principal) (.holderPrincipalMismatch cell pinned principal)
  | none => pure ()

def pinHolderPrincipal (cell : CellIdentity) (principal : PrincipalId) :
    Call ClockHorizonError GrantorClockBoundedCoordinator := do
  c.verifyHolderPrincipalPin cell principal
  pure { c with pinnedHolderPrincipals := c.pinnedHolderPrincipals.insert cell principal }

def closeLease (existing : QuotaLeaseGrant) :
    Call ClockHorizonError (QuotaLeaseGrantor × QuotaLeaseGrant) :=
  match existing.state with
  | .active => do
    let (quota, _) ← (c.quota.reportUsage presented receipt.leaseId
      receipt.finalHighWaterSpent).within .quotaLedger
    let (quota, _) ← (quota.beginClose presented receipt.leaseId).within .quotaLedger
    (quota.ackClose presented receipt.leaseId).within .quotaLedger
  | .closing => do
    refuse (receipt.finalHighWaterSpent ≠ existing.spent) (.quotaLedger .newReserveForbidden)
    (c.quota.ackClose presented receipt.leaseId).within .quotaLedger
  | .quarantined | .fenced => do
    let record ← expect c.horizons[receipt.leaseId]? (.unknownLeaseHorizon receipt.leaseId)
    let gateway ← expect record.requiredGateways.head?
      (.invalidMultiEndpointScope "empty MultiEndpointFenceScope")
    let reconcileSeq := (c.quota.history receipt.leaseId).length + 1
    (c.quota.reconcileQuarantined presented
      (receipt.reconciliation existing gateway reconcileSeq)).within .quotaReconcile
  | state => .error (.refused (.quotaLedger (.notActive state)))

def settleQuotaWithSignedCloseReceipt (verdict : Bool) :
    Call ClockHorizonError (GrantorClockBoundedCoordinator × QuotaLeaseGrant) := do
  (c.quota.authority.admitFence presented).within .fence
  receipt.verify verdict
  match c.closeReceipts[receipt.leaseId]? with
  | some committed => do
    refuse (committed ≠ receipt) (.conflictingCloseReceipt committed.receiptId receipt.receiptId)
    let lease ← (c.quota.query receipt.leaseId).within .quotaLedger
    pure (c, lease)
  | none => do
    let existing ← (c.quota.query receipt.leaseId).within .quotaLedger
    refuse (receipt.holderCell ≠ existing.cell)
      (.holderCellImpersonation receipt.holderCell existing.cell)
    c.verifyHolderPrincipalPin existing.cell receipt.signerPrincipalId
    refuse (receipt.holderBootGeneration ≠ existing.nodeBootGeneration ∨
        receipt.epoch ≠ existing.epoch ∨ receipt.fencingToken ≠ existing.fencingToken ∨
        receipt.faceValue ≠ existing.faceValue) (.quotaReconcile .receiptBindMismatch)
    let (quota, closed) ← c.closeLease presented receipt existing
    pure ({ c with
      quota := quota
      closeReceipts := c.closeReceipts.insert receipt.leaseId receipt
      horizons := Table.modifyAll GrantorHorizonRecord.settled c.horizons [receipt.leaseId] },
      closed)

/-- What an operation can do that does not open the coordinator again. The operations that neither
pin nor settle, and those that fail, may change the ledger and the horizons in any way. -/
inductive Acts (c : GrantorClockBoundedCoordinator) : GrantorClockBoundedCoordinator → Prop
  | pin {cell principal t} : c.pinHolderPrincipal cell principal = .ok t → Acts c t
  | settle {presented receipt verdict t lease} :
      c.settleQuotaWithSignedCloseReceipt presented receipt verdict = .ok (t, lease) → Acts c t
  | other {quota horizons} : Acts c { c with quota := quota, horizons := horizons }

variable {c} {t : GrantorClockBoundedCoordinator} {cell : CellIdentity} {principal : PrincipalId}
  {lease : QuotaLeaseGrant} {verdict : Bool} {presented receipt}

lemma verifyHolderPrincipalPin_eq_ok : c.verifyHolderPrincipalPin cell principal = .ok u ↔
      ∀ pinned ∈ c.pinnedHolderPrincipals[cell]?, pinned = principal := by
  unfold verifyHolderPrincipalPin
  split
  · next hsome => simp [refuse_eq_ok, hsome]
  · next hnone => simp [hnone, pure, Except.pure]

/-- The first principal of a cell is pinned, and no other is accepted afterwards. -/
lemma pinHolderPrincipal_spec (h : c.pinHolderPrincipal cell principal = .ok t) :
    (∀ pinned ∈ c.pinnedHolderPrincipals[cell]?, pinned = principal) ∧
      t.pinnedHolderPrincipals = c.pinnedHolderPrincipals.insert cell principal := by
  simp only [pinHolderPrincipal, bind_eq_ok, pure_eq_ok, verifyHolderPrincipalPin_eq_ok] at h
  obtain ⟨-, hsame, rfl⟩ := h
  exact ⟨hsame, rfl⟩

/-- A settlement keeps the pins, and the first one of a lease is signed by whoever is pinned. -/
lemma settle_spec
    (h : c.settleQuotaWithSignedCloseReceipt presented receipt verdict = .ok (t, lease)) :
    t.pinnedHolderPrincipals = c.pinnedHolderPrincipals ∧
      (c.closeReceipts[receipt.leaseId]? = none → ∃ existing,
        c.quota.leases[receipt.leaseId]? = some existing ∧
        ∀ pinned ∈ c.pinnedHolderPrincipals[existing.cell]?,
          pinned = receipt.signerPrincipalId) := by
  simp only [settleQuotaWithSignedCloseReceipt, bind_eq_ok, within_eq_ok] at h
  obtain ⟨-, -, -, -, h⟩ := h
  split at h
  · next hsome =>
    simp only [bind_eq_ok, pure_eq_ok, Prod.mk.injEq] at h
    obtain ⟨-, -, -, -, rfl, -⟩ := h
    exact ⟨rfl, fun hnone => by simp [hsome] at hnone⟩
  · simp only [bind_eq_ok, within_eq_ok, pure_eq_ok, Prod.mk.injEq, QuotaLeaseGrantor.query,
      expect_eq_ok, verifyHolderPrincipalPin_eq_ok] at h
    obtain ⟨existing, hexisting, -, -, -, hpin, -, -, -, -, rfl, -⟩ := h
    exact ⟨rfl, fun _ => ⟨existing, hexisting, hpin⟩⟩

lemma Acts.pinned (h : c.Acts t) (hpinned : c.pinnedHolderPrincipals[cell]? = some principal) :
    t.pinnedHolderPrincipals[cell]? = some principal := by
  cases h with
  | settle h => rwa [(settle_spec h).1]
  | other => exact hpinned
  | pin h =>
    obtain ⟨hsame, heq⟩ := pinHolderPrincipal_spec h
    rw [heq, Table.getElem?_insert_eq]
    split
    · next hcell => rw [hsame principal (by rwa [hcell])]
    · exact hpinned

lemma pinned_of_run (hrun : Relation.ReflTransGen Acts c t)
    (hpinned : c.pinnedHolderPrincipals[cell]? = some principal) :
    t.pinnedHolderPrincipals[cell]? = some principal := by
  induction hrun with
  | refl => exact hpinned
  | tail _ hacts ih => exact hacts.pinned ih

/-- After a pin, and as long as the coordinator is not opened again, a receipt that first settles a
lease of the holder is signed by the pinned principal. -/
theorem settled_by_pinned {c₁ c₂ : GrantorClockBoundedCoordinator} {existing : QuotaLeaseGrant}
    (hpin : c.pinHolderPrincipal cell principal = .ok c₁) (hrun : Relation.ReflTransGen Acts c₁ c₂)
    (hlease : c₂.quota.leases[receipt.leaseId]? = some existing) (hcell : existing.cell = cell)
    (hfirst : c₂.closeReceipts[receipt.leaseId]? = none) (hsettle :
      c₂.settleQuotaWithSignedCloseReceipt presented receipt verdict = .ok (t, lease)) :
    receipt.signerPrincipalId = principal := by
  have hpinned : c₁.pinnedHolderPrincipals[cell]? = some principal := by
    rw [(pinHolderPrincipal_spec hpin).2]
    exact Std.ExtTreeMap.getElem?_insert_self
  obtain ⟨lease', hlease', hsigner⟩ := (settle_spec hsettle).2 hfirst
  obtain rfl := Option.some.inj (hlease.symm.trans hlease')
  exact (hsigner principal (hcell ▸ pinned_of_run hrun hpinned)).symm

open QuotaSample

/-- A coordinator that has granted a lease of ten to the holder `8`. -/
def sample : Option GrantorClockBoundedCoordinator := do
  let (g, _) ← ((QuotaLeaseGrantor.new authority 10).grantForHolder authority.fence 1 8 1 10
    none).toOption
  let (g, _) ← (g.activate authority.fence 1).toOption
  some ⟨g, ∅, ∅, ∅⟩

def signedBy (signer : PrincipalId) : SignedLeaseCloseReceipt :=
  ⟨5, 1, 8, 1, 1, 1, 10, 4, 6, signer, 1, 1, 0⟩

lemma eq_ok_of_mem_toOption {ε α : Type} {x : Except ε α} {a : α} (h : a ∈ x.toOption) :
    x = .ok a := by
  cases x with
  | error => cases h
  | ok => rw [Option.some.inj h]

theorem settled_by_pinned_sample : ∃ c ∈ sample, ∃ c₁, c.pinHolderPrincipal 8 1 = .ok c₁ ∧ ∃ r,
      c₁.settleQuotaWithSignedCloseReceipt authority.fence (signedBy 1) true = .ok r ∧
      (signedBy 1).signerPrincipalId = 1 := by
  have hcheck : ∃ c ∈ sample, ∃ c₁ ∈ (c.pinHolderPrincipal 8 1).toOption,
      ∃ existing ∈ c₁.quota.leases[(1 : QuotaLeaseId)]?, existing.cell = 8 ∧
      c₁.closeReceipts[(1 : QuotaLeaseId)]? = none ∧
      ∃ r ∈ (c₁.settleQuotaWithSignedCloseReceipt authority.fence (signedBy 1) true).toOption,
        r.2.state = .closed := by decide +kernel
  obtain ⟨c, hc, c₁, hpin, existing, hlease, hcell, hfirst, r, hsettle, -⟩ := hcheck
  have hpin := eq_ok_of_mem_toOption hpin
  have hsettle := eq_ok_of_mem_toOption hsettle
  exact ⟨c, hc, c₁, hpin, r, hsettle, settled_by_pinned hpin .refl hlease hcell hfirst hsettle⟩

/-- Opened again, the coordinator closes the lease of a pinned holder for another signer. -/
theorem reopened_forgets_pin : ∃ c ∈ sample, ∃ c₁ ∈ (c.pinHolderPrincipal 8 1).toOption,
      ∃ r ∈ (c₁.openWithStore.settleQuotaWithSignedCloseReceipt authority.fence (signedBy 2)
        true).toOption, r.2.cell = 8 ∧ r.2.state = .closed := by
  decide +kernel

end GrantorClockBoundedCoordinator

end Nlos.Lease
