import Nlos.Resource.Authority

/-!
# Reservations

The life of a reservation: it takes the upper bound of its quote out of an account, is activated
once, reports its usage, may be frozen, and is finalized with a refund of what it did not use.
-/

namespace Nlos.Resource

open Lib Capability

namespace ResourceAuthority

variable (s : ResourceAuthority)

def debit (accountId : ResourceAccountId) (amount : U64) : List AccountRow :=
  updateRows (fun a => a.accountId = accountId ∧ amount ≤ a.availableCredit)
    (fun a => { a with availableCredit := a.availableCredit.saturatingSub amount }) s.accounts

def newReservation (q : ReserveRequest) (quote : QuoteRecord) : ReservationRow :=
  let reservationId := id16 "nlos/reservation/id/v1" [q.idempotencyKey.bytes, q.operationId.bytes]
  { reservationId
    accountId := q.accountId
    quoteId := q.quoteId
    callId := q.callId
    operationId := q.operationId
    driverId := quote.driverId
    deviceId := quote.deviceId
    driverGeneration := quote.driverGeneration
    driverFencingToken := quote.driverFencingToken
    upperBound := quote.upperBound
    demand := q.demand
    activationToken := hash "nlos/reservation/activate/v1"
      [reservationId.bytes, q.operationId.bytes, q.idempotencyKey.bytes]
    createdAtMs := q.reservedAtMs
    activationReceiptId := none
    usageHighWaterSeq := 0
    usageHighWater := 0
    quarantineReceiptId := none
    quarantinedAtMs := none
    finalizeReceiptId := none
    finalizedAtMs := none
    idempotencyKey := q.idempotencyKey
    activated := false }

def holdCredit (q : ReserveRequest) (quote : QuoteRecord) : Result ResourceAuthority := do
  let account ← orRefuse (s.account q.accountId) .accountNotFound
  refuseIf (account.availableCredit < quote.upperBound)
    (.insufficientCredit account.availableCredit quote.upperBound)
  encode quote.upperBound
  refuseIf ((s.accounts.countP fun a =>
      a.accountId = q.accountId ∧ quote.upperBound ≤ a.availableCredit) ≠ 1)
    (.insufficientCredit account.availableCredit quote.upperBound)
  encode quote.driverGeneration.val
  encode q.reservedAtMs
  q.demand.encode
  let row := newReservation q quote
  let reservations ← insertInto
    (fun r => r.reservationId = row.reservationId ∨ r.idempotencyKey = row.idempotencyKey ∨
      r.callId = row.callId ∨ r.operationId = row.operationId ∨
      r.activationToken = row.activationToken) row s.reservations
  pure { s with accounts := s.debit q.accountId quote.upperBound, reservations }

def reserve (q : ReserveRequest) : Result (ResourceAuthority × ReservationDecision) :=
  match s.reservations.find? (·.idempotencyKey = q.idempotencyKey) with
  | some row => do
    let record ← row.record
    refuseIf (record.accountId ≠ q.accountId ∨ record.quoteId ≠ q.quoteId ∨
      record.callId ≠ q.callId ∨ record.operationId ≠ q.operationId ∨
      record.demand ≠ q.demand) .idempotencyConflict
    pure (s, .replayed record)
  | none => do
    let quote ← orRefuse (s.quote q.quoteId) .quoteNotFound
    let _ ← s.activeDriver quote.driverId quote.driverGeneration quote.driverFencingToken
    refuseIf (quote.validUntilMs < q.reservedAtMs) .quoteExpired
    match q.demand.exceedanceOf quote.demandCapacity with
    | some (dimension, demand, capacity) =>
      .error (.demandExceedsCapacity dimension demand capacity)
    | none => do
      let s ← s.holdCredit q quote
      let found ← s.reservation (newReservation q quote).reservationId
      let record ← orRefuse found (.corruptRecord "new reservation absent")
      pure (s, .reserved record)

def newActivation (r : ReservationRecord) (activatedAtMs : U64) : ActivationReceipt where
  receiptId := id16 "nlos/reservation-activation/receipt/v1"
    [r.reservationId.bytes, r.activationToken.bytes]
  reservationId := r.reservationId
  operationId := r.operationId
  activatedAtMs := activatedAtMs

def activate (q : ActivateReservationRequest) :
    Result (ResourceAuthority × ActivationDecision) := do
  let r ← s.requireReservation q.reservationId
  refuseIf (r.callId ≠ q.callId ∨ r.operationId ≠ q.operationId ∨ r.driverId ≠ q.driverId ∨
    r.driverGeneration ≠ q.driverGeneration ∨ r.driverFencingToken ≠ q.driverFencingToken ∨
    r.activationToken ≠ q.activationToken) .reservationBindingMismatch
  let _ ← s.activeDriver r.driverId r.driverGeneration r.driverFencingToken
  match r.state with
  | .quarantined => .error .reservationQuarantined
  | .finalized => .error .reservationFinalized
  | .active => do
    let receipt ← orRefuse (s.activationReceipt r.reservationId)
      (.corruptRecord "active reservation has no receipt")
    pure (s, .replayed receipt)
  | .reserved => do
    let receipt := newActivation r q.activatedAtMs
    encode q.activatedAtMs
    let activationReceipts ← insertInto
      (fun a => a.receiptId = receipt.receiptId ∨ a.reservationId = receipt.reservationId)
      receipt s.activationReceipts
    -- `activated_at_ms` may not be before `created_at_ms`.
    refuseIf (q.activatedAtMs < r.createdAtMs) .sqlite
    let reservations := updateRows
      (fun row => row.reservationId = r.reservationId ∧ row.activated = false)
      (fun row => { row with activated := true, activationReceiptId := some receipt.receiptId })
      s.reservations
    pure ({ s with activationReceipts, reservations }, .activated receipt)

def updateReservation (p : ReservationRow → Prop) [DecidablePred p]
    (f : ReservationRow → ReservationRow) (reason : String) : Result ResourceAuthority := do
  refuseIf ((s.reservations.countP fun r => p r) ≠ 1) (.corruptRecord reason)
  pure { s with reservations := updateRows p f s.reservations }

def notActive : ReservationState → ResourceAuthorityError
  | .quarantined => .reservationQuarantined
  | .finalized => .reservationFinalized
  | .reserved | .active => .reservationNotActive

def requireActivation (r : ReservationRecord) (operationId : OperationId)
    (activationReceiptId : ReceiptId) : Result ActivationReceipt := do
  let activation ← orRefuse (s.activationReceipt r.reservationId)
    (.corruptRecord "active reservation has no receipt")
  refuseIf (r.activationReceiptId ≠ some activationReceiptId ∨ r.operationId ≠ operationId ∨
    activation.receiptId ≠ activationReceiptId ∨ activation.operationId ≠ operationId)
    .reservationBindingMismatch
  pure activation

def consumptionReceiptFor (q : ConsumeReservationRequest) : ConsumptionReceipt :=
  { q with
    receiptId := id16 "nlos/reservation-consumption/receipt/v1"
      [q.reservationId.bytes, q.activationReceiptId.bytes, q.sequence.bytes,
        q.cumulativeUsage.bytes] }

/-- The writes of a usage report above the high water. -/
def recordConsumption (r : ReservationRecord) (q : ConsumeReservationRequest) :
    Result (ResourceAuthority × ConsumeDecision) := do
  refuseIf (q.sequence ≤ r.usageHighWaterSeq) .consumptionSequenceConflict
  refuseIf (q.cumulativeUsage < r.usageHighWater)
    (.usageNotMonotonic r.usageHighWater q.cumulativeUsage)
  refuseIf (r.upperBound < q.cumulativeUsage)
    (.usageExceedsUpperBound q.cumulativeUsage r.upperBound)
  let receipt := consumptionReceiptFor q
  encode q.sequence
  encode q.cumulativeUsage
  encode q.consumedAtMs
  let consumptionReceipts ← insertInto
    (fun c => c.receiptId = receipt.receiptId ∨
      (c.reservationId = q.reservationId ∧ c.sequence = q.sequence))
    receipt s.consumptionReceipts
  let s ← updateReservation { s with consumptionReceipts }
    (fun row => row.reservationId = q.reservationId ∧ row.activated ∧
      row.usageHighWaterSeq = r.usageHighWaterSeq ∧ row.usageHighWater = r.usageHighWater)
    (fun row => { row with
      usageHighWaterSeq := q.sequence
      usageHighWater := q.cumulativeUsage })
    "consumption high-water CAS lost"
  pure (s, .recorded receipt)

def consume (q : ConsumeReservationRequest) : Result (ResourceAuthority × ConsumeDecision) := do
  refuseIf (q.sequence = 0) .invalidUsageSequence
  let r ← s.requireReservation q.reservationId
  refuseIf (r.state ≠ .active) (notActive r.state)
  let _ ← s.requireActivation r q.operationId q.activationReceiptId
  let _ ← s.activeDriver r.driverId r.driverGeneration r.driverFencingToken
  encode q.sequence
  match s.consumptionReceipt q.reservationId q.sequence with
  | some existing => do
    refuseIf (existing.operationId ≠ q.operationId ∨
      existing.activationReceiptId ≠ q.activationReceiptId ∨
      existing.cumulativeUsage ≠ q.cumulativeUsage) .consumptionSequenceConflict
    pure (s, .replayed existing)
  | none => s.recordConsumption r q

def replayQuarantine (r : ReservationRecord) (existingId : ReceiptId)
    (q : QuarantineReservationRequest) : Result QuarantineReceipt := do
  refuseIf (r.state ≠ .quarantined)
    (.corruptRecord "quarantine receipt attached to non-active reservation")
  let existing ← orRefuse (s.quarantineReceipt q.reservationId)
    (.corruptRecord "quarantined reservation has no quarantine receipt")
  refuseIf (existing.receiptId ≠ existingId)
    (.corruptRecord "reservation quarantine receipt id disagrees")
  refuseIf (existing.operationId ≠ q.operationId ∨
    existing.activationReceiptId ≠ q.activationReceiptId) .reservationBindingMismatch
  refuseIf (existing.reasonDigest ≠ q.reasonDigest) .idempotencyConflict
  pure existing

def newQuarantine (r : ReservationRecord) (q : QuarantineReservationRequest) : QuarantineReceipt :=
  { q with
    receiptId := id16 "nlos/reservation-quarantine/receipt/v1"
      [q.reservationId.bytes, q.activationReceiptId.bytes, q.reasonDigest.bytes]
    highWaterSeq := r.usageHighWaterSeq
    highWater := r.usageHighWater }

def quarantine (q : QuarantineReservationRequest) :
    Result (ResourceAuthority × QuarantineDecision) := do
  let r ← s.requireReservation q.reservationId
  match r.quarantineReceiptId with
  | some existingId => do
    let existing ← s.replayQuarantine r existingId q
    pure (s, .replayed existing)
  | none => do
    refuseIf ((s.quarantineReceipt q.reservationId).isSome)
      (.corruptRecord "quarantine receipt is not bound on reservation")
    refuseIf (r.state ≠ .active) (notActive r.state)
    let activation ← s.requireActivation r q.operationId q.activationReceiptId
    refuseIf (q.quarantinedAtMs < activation.activatedAtMs) .invalidQuarantineTimestamp
    let _ ← s.activeDriver r.driverId r.driverGeneration r.driverFencingToken
    let receipt := newQuarantine r q
    encode receipt.highWaterSeq
    encode receipt.highWater
    encode q.quarantinedAtMs
    let quarantineReceipts ← insertInto
      (fun k => k.receiptId = receipt.receiptId ∨ k.reservationId = receipt.reservationId)
      receipt s.quarantineReceipts
    let s ← updateReservation { s with quarantineReceipts }
      (fun row => row.reservationId = q.reservationId ∧ row.activated ∧
        row.quarantineReceiptId = none)
      (fun row => { row with
        quarantineReceiptId := some receipt.receiptId
        quarantinedAtMs := some q.quarantinedAtMs })
      "reservation quarantine compare-and-swap failed"
    pure (s, .quarantined receipt)

def boundQuarantineReceipt (r : ReservationRecord) : Result QuarantineReceipt := do
  let receipt ← orRefuse (s.quarantineReceipt r.reservationId)
    (.corruptRecord "quarantined reservation has no quarantine receipt")
  refuseIf (r.quarantineReceiptId ≠ some receipt.receiptId ∨ r.operationId ≠ receipt.operationId ∨
    r.activationReceiptId ≠ some receipt.activationReceiptId ∨
    r.usageHighWaterSeq ≠ receipt.highWaterSeq ∨ r.usageHighWater ≠ receipt.highWater)
    (.corruptRecord "quarantine receipt disagrees with reservation")
  pure receipt

def inspectQuarantineReceipt (reservationId : ReservationId) : Result QuarantineReceipt := do
  let r ← s.requireReservation reservationId
  refuseIf (r.state ≠ .quarantined) (.corruptRecord "reservation is not quarantined")
  s.boundQuarantineReceipt r

def replayFinalize (r : ReservationRecord) (existingId : ReceiptId)
    (q : FinalizeReservationRequest) : Result FinalizationReceipt := do
  refuseIf (r.state ≠ .finalized)
    (.corruptRecord "finalize receipt attached to non-finalized reservation")
  let existing ← orRefuse (s.finalizeReceipt q.reservationId)
    (.corruptRecord "finalized reservation has no finalize receipt")
  refuseIf (existing.receiptId ≠ existingId)
    (.corruptRecord "reservation finalize receipt id disagrees")
  refuseIf (existing.operationId ≠ q.operationId ∨
    existing.activationReceiptId ≠ q.activationReceiptId) .reservationBindingMismatch
  refuseIf (existing.effectClosedProofDigest ≠ q.effectClosedProofDigest ∨
    existing.finalSeq ≠ q.finalSeq ∨ existing.finalUsage ≠ q.finalUsage) .idempotencyConflict
  pure existing

def settledQuarantine (r : ReservationRecord) : Result (Option QuarantineReceipt) :=
  match r.state with
  | .active => pure none
  | .quarantined => some <$> s.boundQuarantineReceipt r
  | .finalized => .error .reservationFinalized
  | .reserved => .error .reservationNotActive

def settlementFence (r : ReservationRecord) (q : FinalizeReservationRequest) : Result Unit :=
  match s.activeDriver r.driverId r.driverGeneration r.driverFencingToken with
  | .ok _ => pure ()
  | .error .staleDriver | .error .driverNotFound =>
    refuseIf (q.finalSeq ≠ r.usageHighWaterSeq ∨ q.finalUsage ≠ r.usageHighWater) .staleDriver
  | .error e => .error e

/-- `UPDATE resource_accounts SET available_credit = available_credit + ?`; the sum must fit its
column. -/
def credit (accountId : ResourceAccountId) (amount : U64) : Result ResourceAuthority := do
  refuseIf (∃ a ∈ s.accounts, a.accountId = accountId ∧
    2 ^ 63 ≤ a.availableCredit.val + amount.val) .sqlite
  refuseIf ((s.accounts.countP fun a => a.accountId = accountId) ≠ 1)
    (.corruptRecord "finalize refund account compare-and-swap failed")
  pure { s with
    accounts := updateRows (fun a => a.accountId = accountId)
      (fun a => { a with availableCredit := a.availableCredit.saturatingAdd amount }) s.accounts }

def liftQuarantine (reservationId : ReservationId) (quarantined : Option QuarantineReceipt) :
    Result ResourceAuthority :=
  if quarantined.isSome then
    s.updateReservation
      (fun row => row.reservationId = reservationId ∧ row.activated ∧
        row.quarantineReceiptId.isSome ∧ row.finalizeReceiptId = none)
      (fun row => { row with quarantineReceiptId := none, quarantinedAtMs := none })
      "reservation quarantine overlay CAS failed"
  else pure s

def finalizationReceipt (r : ReservationRecord) (q : FinalizeReservationRequest) :
    FinalizationReceipt :=
  { q with
    receiptId := id16 "nlos/reservation-finalize/receipt/v1"
      [q.reservationId.bytes, q.activationReceiptId.bytes, q.effectClosedProofDigest.bytes,
        q.finalSeq.bytes, q.finalUsage.bytes]
    highWaterSeq := r.usageHighWaterSeq
    highWater := r.usageHighWater
    refundCredit := r.upperBound.saturatingSub q.finalUsage }

def settle (r : ReservationRecord) (quarantined : Option QuarantineReceipt)
    (q : FinalizeReservationRequest) : Result (ResourceAuthority × FinalizeDecision) := do
  let receipt := finalizationReceipt r q
  let s ← s.liftQuarantine q.reservationId quarantined
  encode receipt.highWaterSeq
  encode q.finalSeq
  encode receipt.highWater
  encode q.finalUsage
  encode receipt.refundCredit
  encode q.finalizedAtMs
  let finalizeReceipts ← insertInto
    (fun f => f.receiptId = receipt.receiptId ∨ f.reservationId = receipt.reservationId)
    receipt s.finalizeReceipts
  let s ← updateReservation { s with finalizeReceipts }
    (fun row => row.reservationId = q.reservationId ∧ row.activated ∧
      row.quarantineReceiptId = none ∧ row.finalizeReceiptId = none)
    (fun row => { row with
      finalizeReceiptId := some receipt.receiptId
      finalizedAtMs := some q.finalizedAtMs })
    "reservation finalize compare-and-swap failed"
  let s ← s.credit r.accountId receipt.refundCredit
  pure (s, .finalized receipt)

def finalizeReservation (q : FinalizeReservationRequest) :
    Result (ResourceAuthority × FinalizeDecision) := do
  let r ← s.requireReservation q.reservationId
  match r.finalizeReceiptId with
  | some existingId => do
    let existing ← s.replayFinalize r existingId q
    pure (s, .replayed existing)
  | none => do
    refuseIf ((s.finalizeReceipt q.reservationId).isSome)
      (.corruptRecord "finalize receipt is not bound on reservation")
    let quarantined ← s.settledQuarantine r
    let activation ← s.requireActivation r q.operationId q.activationReceiptId
    refuseIf (q.finalizedAtMs < activation.activatedAtMs ∨
      quarantined.any fun k => q.finalizedAtMs < k.quarantinedAtMs) .invalidFinalizeTimestamp
    s.settlementFence r q
    refuseIf (q.finalSeq < r.usageHighWaterSeq) .finalizeSequenceConflict
    refuseIf (q.finalUsage < r.usageHighWater) (.usageNotMonotonic r.usageHighWater q.finalUsage)
    refuseIf (r.upperBound < q.finalUsage) (.usageExceedsUpperBound q.finalUsage r.upperBound)
    s.settle r quarantined q

def throttleDecisionsOf (reservationId : ReservationId) : List ThrottleDecisionReceipt :=
  (s.throttleDecisions.map ThrottleDecisionRow.receipt).filter
    fun d => d.reservationId = reservationId

/-- The checks and the write of a decision on an open reservation. -/
def extendThrottleChain (r : ReservationRecord) (q : RecordThrottleDecisionRequest) :
    Result (ResourceAuthority × ThrottleDecisionDecision) := do
  let latest := (s.throttleDecisionsOf q.reservationId).getLast?
  refuseIf (q.decidedAtMs < r.createdAtMs ∨
    (s.activationReceipt q.reservationId).any (fun a => q.decidedAtMs < a.activatedAtMs) ∨
    latest.any (fun d => q.decidedAtMs < d.decidedAtMs)) .invalidThrottleTimestamp
  let effectiveBefore := latest.elim r.demand ThrottleDecisionReceipt.demandAfter
  refuseIf (q.demandBefore ≠ effectiveBefore)
    (.staleThrottleDemand effectiveBefore q.demandBefore)
  let authoritative := q.demandBefore.throttledToPercent q.throttlePercent
  refuseIf (q.demandAfter ≠ authoritative)
    (.invalidThrottleAdjustment authoritative q.demandAfter)
  let receipt : ThrottleDecisionReceipt := {
    receiptId := id16 "nlos/reservation-throttle/receipt/v1"
      [q.reservationId.bytes, q.idempotencyKey.bytes, q.throttlePercent.bytes,
        q.demandBefore.cpuShares.bytes, q.demandBefore.memoryMib.bytes,
        q.demandBefore.ioWeight.bytes, q.demandAfter.cpuShares.bytes,
        q.demandAfter.memoryMib.bytes, q.demandAfter.ioWeight.bytes]
    reservationId := q.reservationId
    operationId := r.operationId
    sequence := latest.elim 1 fun d => d.sequence + 1
    throttlePercent := q.throttlePercent
    demandBefore := q.demandBefore
    demandAfter := q.demandAfter
    decidedAtMs := q.decidedAtMs }
  encode receipt.sequence
  q.demandBefore.encode
  q.demandAfter.encode
  encode q.decidedAtMs
  let throttleDecisions ← insertInto
    (fun d => d.receipt.receiptId = receipt.receiptId ∨ d.idempotencyKey = q.idempotencyKey ∨
      (d.receipt.reservationId = receipt.reservationId ∧ d.receipt.sequence = receipt.sequence))
    ⟨q.idempotencyKey, receipt⟩ s.throttleDecisions
  pure ({ s with throttleDecisions }, .recorded receipt)

def recordThrottleDecision (q : RecordThrottleDecisionRequest) :
    Result (ResourceAuthority × ThrottleDecisionDecision) := do
  refuseIf (100 < q.throttlePercent.val) .invalidThrottlePercent
  match s.throttleDecisions.find? (·.idempotencyKey = q.idempotencyKey) with
  | some existing => do
    refuseIf (existing.receipt.reservationId ≠ q.reservationId ∨
      existing.receipt.throttlePercent ≠ q.throttlePercent ∨
      existing.receipt.demandBefore ≠ q.demandBefore ∨
      existing.receipt.demandAfter ≠ q.demandAfter) .idempotencyConflict
    pure (s, .replayed existing.receipt)
  | none => do
    let r ← s.requireReservation q.reservationId
    refuseIf (r.state = .quarantined) .reservationQuarantined
    refuseIf (r.state = .finalized) .reservationFinalized
    let _ ← s.activeDriver r.driverId r.driverGeneration r.driverFencingToken
    s.extendThrottleChain r q

end ResourceAuthority

end Nlos.Resource
