import Nlos.Lease.Barrier
import Nlos.Lib.Table

/-!
# Quota leases

The grantor takes the face value of a lease out of its available pool and puts back what the
lease has not spent, when the lease closes, is cancelled or is reconciled.
-/

namespace Nlos.Lease

open Lib

abbrev QuotaLeaseId := Word 16
abbrev LeaseInstant := ℕ

inductive QuotaLeaseState where
  | issued
  | active
  | closing
  | closed
  | cancelled
  | fenced
  | quarantined
deriving DecidableEq

/-- States that a TTL sweep fences. -/
def QuotaLeaseState.expirable : QuotaLeaseState → Bool
  | .issued | .active | .closing => true
  | .closed | .cancelled | .fenced | .quarantined => false

/-- States that an epoch advance quarantines. -/
def QuotaLeaseState.unsettled : QuotaLeaseState → Bool
  | .issued | .active | .closing | .fenced => true
  | .closed | .cancelled | .quarantined => false

structure QuotaLeaseGrant where
  leaseId : QuotaLeaseId
  cell : CellIdentity
  (nodeBootGeneration faceValue remaining spent returned epoch fencingToken : ℕ)
  fenceScope : FenceScope
  expiresAt : Option LeaseInstant
  state : QuotaLeaseState
deriving DecidableEq

structure QuotaReconciliationReceipt where
  receiptId : ReceiptId
  leaseId : QuotaLeaseId
  reconcileSeq : ℕ
  cell : CellIdentity
  (nodeBootGeneration epoch fencingToken faceValue highWaterSpent settledSpent : ℕ)
  (returnedToAvailable remainingQuarantined : ℕ)
  fenceBarrierAck : FenceBarrierAck
deriving DecidableEq

/-- A fence refused by the authority, or a grant refused for a reason of its own. -/
inductive QuotaLeaseGrantError where
  | fence (e : CellAdmitError)
  | insufficientAvailable (requested available : ℕ)
  | conflictingFace (existing requested : ℕ)
  | conflictingTtl (existing requested : Option LeaseInstant)
deriving DecidableEq

inductive QuotaLeaseLedgerError where
  | fence (e : QuotaLeaseGrantError)
  | unknownLease
  | activateRequiresIssued (state : QuotaLeaseState)
  | notActive (state : QuotaLeaseState)
  | newReserveForbidden
  | usageRegression (reported current : ℕ)
  | usageExceedsFace (reported faceValue : ℕ)
  | notClosing (state : QuotaLeaseState)
  | cancelRequiresNeverActive (state : QuotaLeaseState)
  | notFenced (state : QuotaLeaseState)
deriving DecidableEq

inductive QuotaReconcileError where
  | fence (e : QuotaLeaseGrantError)
  | unknownLease
  | notQuarantinedOrFenced (state : QuotaLeaseState)
  | invalidReconcileSeq (expectedMin requested : ℕ)
  | invalidFenceBarrierAck (reason : String)
  | receiptBindMismatch
  | highWaterRegression (reported committed : ℕ)
  | highWaterExceedsFace (reported faceValue : ℕ)
  | returnedRegression (reported committed : ℕ)
  | conservationViolated (faceValue settledSpent returnedToAvailable remainingQuarantined : ℕ)
  | conflictingReconciliationReceipt (existing requested : ReceiptId)
deriving DecidableEq

inductive QuotaMigrationError where
  | grant (e : QuotaLeaseGrantError)
  | ledger (e : QuotaLeaseLedgerError)
  | sourceQuarantinedInPartition (leaseId : QuotaLeaseId)
  | sourceNotDrainedOrClosed (leaseId : QuotaLeaseId) (state : QuotaLeaseState)
  | invalidSourceFenceBarrierAck (reason : String)
  | targetExceedsUnspentRemainder (requested unspent : ℕ)
deriving DecidableEq

inductive QuotaWalLossError where
  | cell (e : CellError)
  | bootGenerationNotAdvanced (lost reconnected : ℕ)
deriving DecidableEq

structure QuotaMigrationOutcome where
  (closedSource targetGrant : QuotaLeaseGrant)
deriving DecidableEq

structure QuotaLeaseGrantor where
  authority : CellAuthority
  available : ℕ
  leases : Table QuotaLeaseId QuotaLeaseGrant
  reconciliationReceipts : Table QuotaLeaseId (List QuotaReconciliationReceipt)

def QuotaReconciliationReceipt.verifyConservation (receipt : QuotaReconciliationReceipt) : Bool :=
  receipt.settledSpent = receipt.highWaterSpent ∧
    receipt.settledSpent + receipt.returnedToAvailable < 2 ^ 64 ∧
    receipt.settledSpent + receipt.returnedToAvailable + receipt.remainingQuarantined < 2 ^ 64 ∧
    receipt.settledSpent + receipt.returnedToAvailable + receipt.remainingQuarantined =
      receipt.faceValue

def verifyQuotaFenceAck (ack : FenceBarrierAck) (lease : QuotaLeaseGrant)
    (expectedHighWater : ℕ) : Except String Unit :=
  ack.checkAxes lease.leaseId lease.fenceScope lease.epoch lease.fencingToken expectedHighWater
    "FenceBarrierAck lease_id mismatch" "FenceBarrierAck epoch mismatch"
    "FenceBarrierAck observed_high_water mismatch"

def applyQuotaHighWater (lease : QuotaLeaseGrant) (highWater : ℕ) :
    Call QuotaLeaseLedgerError QuotaLeaseGrant := do
  refuse (highWater < lease.spent) (.usageRegression highWater lease.spent)
  refuse (lease.faceValue < highWater) (.usageExceedsFace highWater lease.faceValue)
  pure { lease with spent := highWater, remaining := lease.faceValue - highWater }

def closingHighWater (lease : QuotaLeaseGrant) (highWater : ℕ) :
    Call QuotaLeaseLedgerError QuotaLeaseGrant := do
  refuse (highWater < lease.spent) (.usageRegression highWater lease.spent)
  refuse (highWater ≠ lease.spent) .newReserveForbidden
  pure lease

namespace QuotaLeaseGrantor

def new (authority : CellAuthority) (available : ℕ) : QuotaLeaseGrantor where
  authority := authority
  available := available
  leases := ∅
  reconciliationReceipts := ∅

variable (g : QuotaLeaseGrantor) (presented : CellFence) (leaseId : QuotaLeaseId)

def grantForHolder (holderCell : CellIdentity) (holderBootGeneration faceValue : ℕ)
    (expiresAt : Option LeaseInstant) :
    Call QuotaLeaseGrantError (QuotaLeaseGrantor × QuotaLeaseGrant) :=
  match g.leases[leaseId]? with
  | some existing =>
    if existing.cell = holderCell ∧ existing.nodeBootGeneration = holderBootGeneration ∧
        existing.faceValue = faceValue ∧ existing.expiresAt = expiresAt then
      pure (g, existing)
    else do
      (g.authority.admitFence presented).within .fence
      refuse (existing.cell ≠ holderCell) (.fence (.identityMismatch holderCell existing.cell))
      refuse (existing.nodeBootGeneration ≠ holderBootGeneration)
        (.fence (.bootGenerationMismatch holderBootGeneration existing.nodeBootGeneration))
      refuse (existing.faceValue ≠ faceValue) (.conflictingFace existing.faceValue faceValue)
      .error (.refused (.conflictingTtl existing.expiresAt expiresAt))
  | none => do
    (g.authority.admitFence presented).within .fence
    refuse (g.available < faceValue) (.insufficientAvailable faceValue g.available)
    let grant : QuotaLeaseGrant :=
      { leaseId := leaseId
        cell := holderCell
        nodeBootGeneration := holderBootGeneration
        faceValue := faceValue
        remaining := faceValue
        spent := 0
        returned := 0
        epoch := g.authority.epoch
        fencingToken := g.authority.fencingToken
        fenceScope := ⟨holderCell⟩
        expiresAt := expiresAt
        state := .issued }
    pure ({ g with
      available := g.available - faceValue
      leases := g.leases.insert leaseId grant }, grant)

def grant (faceValue : ℕ) (expiresAt : Option LeaseInstant) :
    Call QuotaLeaseGrantError (QuotaLeaseGrantor × QuotaLeaseGrant) :=
  g.grantForHolder presented leaseId g.authority.identity g.authority.nodeBootGeneration faceValue
    expiresAt

def query : Call QuotaLeaseLedgerError QuotaLeaseGrant :=
  expect g.leases[leaseId]? .unknownLease

/-- The committed lease, for a bearer of the current fence. -/
def admitted : Call QuotaLeaseLedgerError QuotaLeaseGrant := do
  (g.authority.admitFence presented).within (.fence ∘ .fence)
  g.query leaseId

def put (lease : QuotaLeaseGrant) : QuotaLeaseGrantor × QuotaLeaseGrant :=
  ({ g with leases := g.leases.insert leaseId lease }, lease)

def activate : Call QuotaLeaseLedgerError (QuotaLeaseGrantor × QuotaLeaseGrant) := do
  let existing ← g.admitted presented leaseId
  match existing.state with
  | .issued => pure (g.put leaseId { existing with state := .active })
  | .active => pure (g, existing)
  | state => .error (.refused (.activateRequiresIssued state))

def reportUsage (highWater : ℕ) :
    Call QuotaLeaseLedgerError (QuotaLeaseGrantor × QuotaLeaseGrant) := do
  let existing ← g.admitted presented leaseId
  match existing.state with
  | .active => do
    let next ← applyQuotaHighWater existing highWater
    if next.spent ≠ existing.spent then pure (g.put leaseId next) else pure (g, next)
  | .closing => do
    let lease ← closingHighWater existing highWater
    pure (g, lease)
  | state => .error (.refused (.notActive state))

def beginClose : Call QuotaLeaseLedgerError (QuotaLeaseGrantor × QuotaLeaseGrant) := do
  let existing ← g.admitted presented leaseId
  match existing.state with
  | .active => pure (g.put leaseId { existing with state := .closing })
  | .closing => pure (g, existing)
  | state => .error (.refused (.notActive state))

def refundRemaining (existing : QuotaLeaseGrant) :
    Call QuotaLeaseLedgerError (QuotaLeaseGrantor × QuotaLeaseGrant) := do
  let nextAvailable ← add64 g.available existing.remaining
  let returned ← add64 existing.returned existing.remaining
  let next := { existing with returned := returned, remaining := 0, state := .closed }
  pure ({ g with leases := g.leases.insert leaseId next, available := nextAvailable }, next)

def ackClose : Call QuotaLeaseLedgerError (QuotaLeaseGrantor × QuotaLeaseGrant) := do
  let existing ← g.admitted presented leaseId
  match existing.state with
  | .closing => g.refundRemaining leaseId existing
  | .closed => pure (g, existing)
  | state => .error (.refused (.notClosing state))

def cancel : Call QuotaLeaseLedgerError (QuotaLeaseGrantor × QuotaLeaseGrant) := do
  let existing ← g.admitted presented leaseId
  match existing.state with
  | .issued => do
    let nextAvailable ← add64 g.available existing.faceValue
    let next :=
      { existing with
        remaining := 0
        returned := existing.faceValue
        spent := 0
        state := .cancelled }
    pure ({ g with leases := g.leases.insert leaseId next, available := nextAvailable }, next)
  | .cancelled => pure (g, existing)
  | state => .error (.refused (.cancelRequiresNeverActive state))

def settleFenced : Call QuotaLeaseLedgerError (QuotaLeaseGrantor × QuotaLeaseGrant) := do
  let existing ← g.admitted presented leaseId
  match existing.state with
  | .fenced => g.refundRemaining leaseId existing
  | .closed => pure (g, existing)
  | state => .error (.refused (.notFenced state))

def quarantineLease : Call QuotaLeaseLedgerError (QuotaLeaseGrantor × QuotaLeaseGrant) := do
  let existing ← g.admitted presented leaseId
  match existing.state with
  | .issued | .active | .closing | .fenced =>
    pure (g.put leaseId { existing with state := .quarantined })
  | .quarantined => pure (g, existing)
  | state => .error (.refused (.notActive state))

def setStates (state : QuotaLeaseState) (leases : Table QuotaLeaseId QuotaLeaseGrant)
    (ids : List QuotaLeaseId) : Table QuotaLeaseId QuotaLeaseGrant :=
  Table.modifyAll (fun lease => { lease with state := state }) leases ids

/-- The ids of the stored leases that satisfy a condition, in order. -/
def idsWhere (p : QuotaLeaseGrant → Bool) : List QuotaLeaseId :=
  Table.keysWhere QuotaLeaseGrant.leaseId p g.leases

def sweepExpired (now : LeaseInstant) : QuotaLeaseGrantor × List QuotaLeaseId :=
  let toFence := g.idsWhere fun lease => lease.expiresAt.any (· ≤ now) && lease.state.expirable
  ({ g with leases := setStates .fenced g.leases toFence }, toFence.filter (g.leases.contains ·))

def advanceEpochAndQuarantine : Call CellError (QuotaLeaseGrantor × CellFence) := do
  let nextEpoch ← expect (next64 g.authority.epoch) .generationExhausted
  let _ ← expect (next64 g.authority.fencingToken) .generationExhausted
  let toQuarantine := g.idsWhere fun lease => lease.epoch < nextEpoch && lease.state.unsettled
  let authority ← g.authority.advanceEpoch
  pure ({ g with
    authority := authority
    leases := setStates .quarantined g.leases toQuarantine }, authority.fence)

/-- The answer to a receipt whose id or sequence number is already recorded. -/
def replay (existing receipt : QuotaReconciliationReceipt) :
    Call QuotaReconcileError (QuotaLeaseGrantor × QuotaLeaseGrant) :=
  if existing = receipt then do
    let lease ← expect g.leases[receipt.leaseId]? .unknownLease
    pure (g, lease)
  else
    .error (.refused (.conflictingReconciliationReceipt existing.receiptId receipt.receiptId))

def history : List QuotaReconciliationReceipt := g.reconciliationReceipts[leaseId]?.getD []

def receiptNamed (receiptId : ReceiptId) : Option QuotaReconciliationReceipt :=
  (g.reconciliationReceipts.toList.flatMap Prod.snd).find? (·.receiptId = receiptId)

/-- The sequence number must exceed the last one. The refusal computes the next number. -/
def checkSeq (receipt : QuotaReconciliationReceipt) : Call QuotaReconcileError Unit :=
  match (g.history receipt.leaseId).getLast? with
  | some last =>
    if receipt.reconcileSeq ≤ last.reconcileSeq then do
      let expectedMin ← add64 last.reconcileSeq 1
      .error (.refused (.invalidReconcileSeq expectedMin receipt.reconcileSeq))
    else pure ()
  | none => pure ()

def checkReceipt (existing : QuotaLeaseGrant) (receipt : QuotaReconciliationReceipt) :
    Call QuotaReconcileError Unit := do
  refuse (existing.state ≠ .quarantined ∧ existing.state ≠ .fenced)
    (.notQuarantinedOrFenced existing.state)
  refuse (receipt.cell ≠ existing.cell ∨ receipt.nodeBootGeneration ≠ existing.nodeBootGeneration ∨
      receipt.epoch ≠ existing.epoch ∨ receipt.fencingToken ≠ existing.fencingToken ∨
      receipt.faceValue ≠ existing.faceValue) .receiptBindMismatch
  (verifyQuotaFenceAck receipt.fenceBarrierAck existing receipt.highWaterSpent).mapError
    (.refused ∘ .invalidFenceBarrierAck)
  refuse (receipt.highWaterSpent < existing.spent)
    (.highWaterRegression receipt.highWaterSpent existing.spent)
  refuse (existing.faceValue < receipt.highWaterSpent)
    (.highWaterExceedsFace receipt.highWaterSpent existing.faceValue)
  refuse (receipt.returnedToAvailable < existing.returned)
    (.returnedRegression receipt.returnedToAvailable existing.returned)
  refuse (receipt.verifyConservation = false)
    (.conservationViolated receipt.faceValue receipt.settledSpent receipt.returnedToAvailable
      receipt.remainingQuarantined)

def reconciled (existing : QuotaLeaseGrant) (receipt : QuotaReconciliationReceipt) :
    QuotaLeaseGrant :=
  { existing with
    spent := receipt.settledSpent
    returned := receipt.returnedToAvailable
    remaining := receipt.remainingQuarantined
    state := if receipt.remainingQuarantined = 0 then .closed else .quarantined }

def applyReceipt (receipt : QuotaReconciliationReceipt) :
    Call QuotaReconcileError (QuotaLeaseGrantor × QuotaLeaseGrant) := do
  g.checkSeq receipt
  let existing ← expect g.leases[receipt.leaseId]? .unknownLease
  checkReceipt existing receipt
  let nextAvailable ← add64 g.available (receipt.returnedToAvailable - existing.returned)
  let next := reconciled existing receipt
  pure ({ g with
    available := nextAvailable
    leases := g.leases.insert receipt.leaseId next
    reconciliationReceipts :=
      g.reconciliationReceipts.insert receipt.leaseId (g.history receipt.leaseId ++ [receipt]) },
    next)

def reconcileQuarantined (receipt : QuotaReconciliationReceipt) :
    Call QuotaReconcileError (QuotaLeaseGrantor × QuotaLeaseGrant) := do
  (g.authority.admitFence presented).within (.fence ∘ .fence)
  refuse (receipt.reconcileSeq = 0) (.invalidReconcileSeq 1 0)
  match g.receiptNamed receipt.receiptId with
  | some existing => g.replay existing receipt
  | none =>
    match (g.history receipt.leaseId).find? (·.reconcileSeq = receipt.reconcileSeq) with
    | some sameSeq => g.replay sameSeq receipt
    | none => g.applyReceipt receipt

def closeSource (sourceFenceAck : FenceBarrierAck) :
    Call QuotaMigrationError (QuotaLeaseGrantor × QuotaLeaseGrant) := do
  (g.authority.admitFence presented).within (.grant ∘ .fence)
  let source ← (g.query leaseId).within .ledger
  match source.state with
  | .quarantined => .error (.refused (.sourceQuarantinedInPartition leaseId))
  | .closing | .closed => do
    (verifyQuotaFenceAck sourceFenceAck source source.spent).mapError
      (.refused ∘ .invalidSourceFenceBarrierAck)
    if source.state = .closing then (g.ackClose presented leaseId).within .ledger
    else pure (g, source)
  | state => .error (.refused (.sourceNotDrainedOrClosed leaseId state))

def grantTarget (targetFaceValue : ℕ) (targetExpiresAt : Option LeaseInstant)
    (closedSource : QuotaLeaseGrant) :
    Call QuotaMigrationError (QuotaLeaseGrantor × QuotaMigrationOutcome) := do
  refuse (closedSource.returned < targetFaceValue)
    (.targetExceedsUnspentRemainder targetFaceValue closedSource.returned)
  let (next, targetGrant) ←
    (g.grant presented leaseId targetFaceValue targetExpiresAt).within .grant
  pure (next, ⟨closedSource, targetGrant⟩)

/-- A target refused after the source was closed leaves the source closed. -/
def migrateLease (sourceFenceAck : FenceBarrierAck) (targetLeaseId : QuotaLeaseId)
    (targetFaceValue : ℕ) (targetExpiresAt : Option LeaseInstant) :
    Except Unit (QuotaLeaseGrantor × Except QuotaMigrationError QuotaMigrationOutcome) :=
  (g.closeSource presented leaseId sourceFenceAck).settleThen g fun closed source =>
    (closed.grantTarget presented targetLeaseId targetFaceValue targetExpiresAt source).settle
      closed

def fenceBootGenerationOnWalLoss (lostBootGeneration reconnectedBootGeneration : ℕ) :
    Call QuotaWalLossError (QuotaLeaseGrantor × CellFence × List QuotaLeaseId) := do
  refuse (reconnectedBootGeneration ≤ lostBootGeneration)
    (.bootGenerationNotAdvanced lostBootGeneration reconnectedBootGeneration)
  let quarantinedIds := g.idsWhere fun lease => lease.state.unsettled
  let (next, newFence) ← g.advanceEpochAndQuarantine.within .cell
  pure (next, newFence, quarantinedIds)

end QuotaLeaseGrantor

inductive QuotaCall where
  | grant (presented : CellFence) (leaseId : QuotaLeaseId) (faceValue : ℕ)
      (expiresAt : Option LeaseInstant)
  | activate (presented : CellFence) (leaseId : QuotaLeaseId)
  | reportUsage (presented : CellFence) (leaseId : QuotaLeaseId) (highWater : ℕ)
  | beginClose (presented : CellFence) (leaseId : QuotaLeaseId)
  | ackClose (presented : CellFence) (leaseId : QuotaLeaseId)
  | cancel (presented : CellFence) (leaseId : QuotaLeaseId)
  | sweepExpired (now : LeaseInstant)
  | settleFenced (presented : CellFence) (leaseId : QuotaLeaseId)
  | quarantineLease (presented : CellFence) (leaseId : QuotaLeaseId)
  | advanceEpochAndQuarantine
  | reconcileQuarantined (presented : CellFence) (receipt : QuotaReconciliationReceipt)
  | migrateLease (presented : CellFence) (sourceLeaseId : QuotaLeaseId)
      (sourceFenceAck : FenceBarrierAck) (targetLeaseId : QuotaLeaseId) (targetFaceValue : ℕ)
      (targetExpiresAt : Option LeaseInstant)
  | fenceBootGenerationOnWalLoss (lostBootGeneration reconnectedBootGeneration : ℕ)
deriving DecidableEq

inductive QuotaAnswer where
  | granted (r : Except QuotaLeaseGrantError QuotaLeaseGrant)
  | ledger (r : Except QuotaLeaseLedgerError QuotaLeaseGrant)
  | swept (ids : List QuotaLeaseId)
  | advanced (r : Except CellError CellFence)
  | reconciled (r : Except QuotaReconcileError QuotaLeaseGrant)
  | migrated (r : Except QuotaMigrationError QuotaMigrationOutcome)
  | walLost (r : Except QuotaWalLossError (CellFence × List QuotaLeaseId))

/-- One operation. A refused one is an answer; an overflow ends the run. -/
def QuotaLeaseGrantor.step (g : QuotaLeaseGrantor) :
    QuotaCall → Except Unit (QuotaLeaseGrantor × QuotaAnswer)
  | .grant presented leaseId faceValue expiresAt =>
    ((g.grant presented leaseId faceValue expiresAt).settle g).map (.map id .granted)
  | .activate presented leaseId => ((g.activate presented leaseId).settle g).map (.map id .ledger)
  | .reportUsage presented leaseId highWater =>
    ((g.reportUsage presented leaseId highWater).settle g).map (.map id .ledger)
  | .beginClose presented leaseId =>
    ((g.beginClose presented leaseId).settle g).map (.map id .ledger)
  | .ackClose presented leaseId => ((g.ackClose presented leaseId).settle g).map (.map id .ledger)
  | .cancel presented leaseId => ((g.cancel presented leaseId).settle g).map (.map id .ledger)
  | .sweepExpired now => .ok ((g.sweepExpired now).map id .swept)
  | .settleFenced presented leaseId =>
    ((g.settleFenced presented leaseId).settle g).map (.map id .ledger)
  | .quarantineLease presented leaseId =>
    ((g.quarantineLease presented leaseId).settle g).map (.map id .ledger)
  | .advanceEpochAndQuarantine =>
    (g.advanceEpochAndQuarantine.settle g).map (.map id .advanced)
  | .reconcileQuarantined presented receipt =>
    ((g.reconcileQuarantined presented receipt).settle g).map (.map id .reconciled)
  | .migrateLease presented sourceLeaseId sourceFenceAck targetLeaseId targetFaceValue
      targetExpiresAt =>
      (g.migrateLease presented sourceLeaseId sourceFenceAck targetLeaseId targetFaceValue
        targetExpiresAt).map (.map id .migrated)
  | .fenceBootGenerationOnWalLoss lostBootGeneration reconnectedBootGeneration =>
    ((g.fenceBootGenerationOnWalLoss lostBootGeneration reconnectedBootGeneration).settle g).map
      (.map id .walLost)

end Nlos.Lease
