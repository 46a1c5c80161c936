import Nlos.Resource.Model

/-!
# The resource authority

The durable tables of the authority and the commands on drivers, accounts, quotes and
reservations. Each command is one transaction.
-/

namespace Nlos.Resource

open Lib Capability

structure DriverRow extends DriverRecord where
  idempotencyKey : IdempotencyKey

structure DriverGenerationRow where
  driverId : DriverId
  generation : Generation
  fencingToken : FencingToken
  profileDigest : Digest
  createdAtMs : U64

structure DriverRotationRow where
  idempotencyKey : IdempotencyKey
  driverId : DriverId
  expectedGeneration : Generation
  expectedFencingToken : FencingToken
  resultingGeneration : Generation

structure DriverGatewayIdentity where
  driverId : DriverId
  participantId : TaskParticipantId

structure DriverGatewayEndpointProof where
  driverId : DriverId
  participantId : TaskParticipantId
  participantGeneration : Generation
  admissionReceiptId : ReceiptId

structure ResourceLedgerEndpointProof where
  accountId : ResourceAccountId
  participantId : TaskParticipantId
  participantGeneration : Generation
  admissionReceiptId : ReceiptId

structure AccountRow extends AccountRecord where
  idempotencyKey : IdempotencyKey

structure QuoteRow extends QuoteRecord where
  idempotencyKey : IdempotencyKey

/-- A stored reservation; the state column only says whether it was activated, and the receipts it
points to say the rest. -/
structure ReservationRow extends ReservationBody where
  idempotencyKey : IdempotencyKey
  activated : Bool

structure ThrottleDecisionRow where
  idempotencyKey : IdempotencyKey
  receipt : ThrottleDecisionReceipt

structure LlmTokenBudgetRow extends LlmTokenBudgetRecord where
  idempotencyKey : IdempotencyKey

structure LlmTokenConsumptionRow where
  idempotencyKey : IdempotencyKey
  receipt : LlmTokenConsumptionReceipt

structure LlmTokenBudgetRevisionRow where
  receiptId : ReceiptId
  idempotencyKey : IdempotencyKey
  accountId : ResourceAccountId
  (expectedGeneration resultingGeneration : Generation)
  limits : LlmTokenLimits
  updatedAtMs : U64

structure ResourceAuthority where
  drivers : List DriverRow
  driverGenerations : List DriverGenerationRow
  driverRotations : List DriverRotationRow
  driverGatewayIdentities : List DriverGatewayIdentity
  driverGatewayEndpointProofs : List DriverGatewayEndpointProof
  accounts : List AccountRow
  resourceLedgerEndpointProofs : List ResourceLedgerEndpointProof
  quotes : List QuoteRow
  reservations : List ReservationRow
  activationReceipts : List ActivationReceipt
  consumptionReceipts : List ConsumptionReceipt
  quarantineReceipts : List QuarantineReceipt
  finalizeReceipts : List FinalizationReceipt
  throttleDecisions : List ThrottleDecisionRow
  llmTokenBudgets : List LlmTokenBudgetRow
  llmTokenConsumptions : List LlmTokenConsumptionRow
  llmTokenBudgetRevisions : List LlmTokenBudgetRevisionRow

def ResourceAuthority.new : ResourceAuthority :=
  ⟨[], [], [], [], [], [], [], [], [], [], [], [], [], [], [], [], []⟩

abbrev Result := Except ResourceAuthorityError

/-- A clash with a declared key is a storage error. -/
abbrev insertInto {α : Type} (clash : α → Prop) [DecidablePred clash] :
    α → List α → Result (List α) :=
  insertOrRefuse .sqlite clash

/-- Columns are signed 64-bit integers. -/
def encode (value : U64) : Result Unit :=
  refuseIf (2 ^ 63 ≤ value.val) (.corruptRecord "u64 exceeds i64")

def ResourceDemand.encode (d : ResourceDemand) : Result Unit := do
  Resource.encode d.cpuShares
  Resource.encode d.memoryMib
  Resource.encode d.ioWeight

def ReservationRow.state (row : ReservationRow) : Result ReservationState :=
  if row.activated then
    match row.quarantineReceiptId, row.finalizeReceiptId with
    | some _, some _ =>
      .error (.corruptRecord "reservation carries both quarantine and finalize overlays")
    | some _, none => .ok .quarantined
    | none, some _ => .ok .finalized
    | none, none => .ok .active
  else .ok .reserved

def ReservationRow.record (row : ReservationRow) : Result ReservationRecord := do
  let state ← row.state
  pure { row.toReservationBody with state }

namespace ResourceAuthority

variable (s : ResourceAuthority)

def driver (driverId : DriverId) : Option DriverRecord :=
  DriverRow.toDriverRecord <$> s.drivers.find? (·.driverId = driverId)

def activeDriver (driverId : DriverId) (generation : Generation) (fencingToken : FencingToken) :
    Result DriverRecord := do
  let record ← orRefuse (s.driver driverId) .driverNotFound
  refuseIf (record.generation ≠ generation ∨ record.fencingToken ≠ fencingToken) .staleDriver
  pure record

def driverGeneration (driverId : DriverId) (generation : Generation) : Result DriverRecord := do
  let record ← orRefuse (s.driver driverId) .driverNotFound
  let row ← orRefuse (s.driverGenerations.find? fun g =>
    g.driverId = driverId ∧ g.generation = generation) .sqlite
  pure { record with
    generation := generation
    fencingToken := row.fencingToken
    profileDigest := row.profileDigest
    createdAtMs := row.createdAtMs }

def account (accountId : ResourceAccountId) : Option AccountRecord :=
  AccountRow.toAccountRecord <$> s.accounts.find? (·.accountId = accountId)

def quote (quoteId : QuoteId) : Option QuoteRecord :=
  QuoteRow.toQuoteRecord <$> s.quotes.find? (·.quoteId = quoteId)

def reservation (reservationId : ReservationId) : Result (Option ReservationRecord) :=
  (s.reservations.find? (·.reservationId = reservationId)).mapM ReservationRow.record

def requireReservation (reservationId : ReservationId) : Result ReservationRecord := do
  let found ← s.reservation reservationId
  orRefuse found .reservationNotFound

def activationReceipt (reservationId : ReservationId) : Option ActivationReceipt :=
  s.activationReceipts.find? (·.reservationId = reservationId)

def quarantineReceipt (reservationId : ReservationId) : Option QuarantineReceipt :=
  s.quarantineReceipts.find? (·.reservationId = reservationId)

def finalizeReceipt (reservationId : ReservationId) : Option FinalizationReceipt :=
  s.finalizeReceipts.find? (·.reservationId = reservationId)

def consumptionReceipt (reservationId : ReservationId) (sequence : U64) :
    Option ConsumptionReceipt :=
  s.consumptionReceipts.find? fun c => c.reservationId = reservationId ∧ c.sequence = sequence

def insertDriverGeneration (r : DriverRecord) : Result ResourceAuthority := do
  encode r.generation.val
  encode r.createdAtMs
  let driverGenerations ← insertInto
    (fun g => g.driverId = r.driverId ∧
      (g.generation = r.generation ∨ g.fencingToken = r.fencingToken))
    ⟨r.driverId, r.generation, r.fencingToken, r.profileDigest, r.createdAtMs⟩ s.driverGenerations
  pure { s with driverGenerations }

def insertDriverGatewayGenerationProof (r : DriverRecord) (admissionReceiptId : ReceiptId) :
    Result ResourceAuthority := do
  encode r.generation.val
  let identity ← orRefuse (s.driverGatewayIdentities.find? (·.driverId = r.driverId))
    (.corruptRecord "driver gateway identity absent")
  let driverGatewayEndpointProofs ← insertInto
    (fun p => (p.driverId = r.driverId ∧ p.participantGeneration = r.generation) ∨
      p.admissionReceiptId = admissionReceiptId)
    ⟨r.driverId, identity.participantId, r.generation, admissionReceiptId⟩
    s.driverGatewayEndpointProofs
  pure { s with driverGatewayEndpointProofs }

def insertInitialDriverGatewayEndpoint (r : DriverRecord) (draw : EndpointDraw) :
    Result ResourceAuthority := do
  let driverGatewayIdentities ← insertInto
    (fun i => i.driverId = r.driverId ∨ i.participantId = draw.participantId)
    ⟨r.driverId, draw.participantId⟩ s.driverGatewayIdentities
  insertDriverGatewayGenerationProof { s with driverGatewayIdentities } r draw.admissionReceiptId

def driverFence (driverId : DriverId) (generation : Generation) (key : IdempotencyKey) :
    FencingToken :=
  hash "nlos/driver/fence/v1" [driverId.bytes, generation.val.bytes, key.bytes]

def registerDriver (q : RegisterDriverRequest) (draw : EndpointDraw) :
    Result (ResourceAuthority × DriverDecision) :=
  match s.drivers.find? (·.idempotencyKey = q.idempotencyKey) with
  | some row => do
    refuseIf (row.profileDigest ≠ q.profileDigest) .idempotencyConflict
    pure (s, .replayed row.toDriverRecord)
  | none => do
    let driverId := id16 "nlos/driver/id/v1" [q.idempotencyKey.bytes, q.profileDigest.bytes]
    let record : DriverRecord := {
      driverId
      deviceId := id16 "nlos/device/id/v1" [q.idempotencyKey.bytes, driverId.bytes]
      generation := .initial
      fencingToken := driverFence driverId .initial q.idempotencyKey
      profileDigest := q.profileDigest
      createdAtMs := q.createdAtMs }
    encode q.createdAtMs
    let drivers ← insertInto
      (fun d => d.driverId = record.driverId ∨ d.deviceId = record.deviceId ∨
        d.idempotencyKey = q.idempotencyKey)
      { record with idempotencyKey := q.idempotencyKey } s.drivers
    let s ← insertDriverGeneration { s with drivers } record
    let s ← insertInitialDriverGatewayEndpoint s record draw
    pure (s, .registered record)

def rotateDriver (q : RotateDriverRequest) (admissionReceiptId : ReceiptId) :
    Result (ResourceAuthority × DriverRotationDecision) :=
  match s.driverRotations.find? (·.idempotencyKey = q.idempotencyKey) with
  | some row => do
    refuseIf (row.driverId ≠ q.driverId ∨ row.expectedGeneration ≠ q.expectedGeneration ∨
      row.expectedFencingToken ≠ q.expectedFencingToken) .idempotencyConflict
    let record ← s.driverGeneration q.driverId row.resultingGeneration
    pure (s, .replayed record)
  | none => do
    let current ← s.activeDriver q.driverId q.expectedGeneration q.expectedFencingToken
    let generation ← orRefuse current.generation.checkedNext .generationExhausted
    let record := { current with
      generation
      fencingToken := driverFence q.driverId generation q.idempotencyKey
      createdAtMs := q.rotatedAtMs }
    let s ← s.insertDriverGeneration record
    let s ← insertDriverGatewayGenerationProof s record admissionReceiptId
    let driverRotations ← insertInto (·.idempotencyKey = q.idempotencyKey)
      ⟨q.idempotencyKey, q.driverId, q.expectedGeneration, q.expectedFencingToken, generation⟩
      s.driverRotations
    -- `updated_at_ms` may not be before `created_at_ms`.
    refuseIf (q.rotatedAtMs < current.createdAtMs) .sqlite
    let drivers := updateRows (fun d => d.driverId = q.driverId ∧
        d.generation = q.expectedGeneration ∧ d.fencingToken = q.expectedFencingToken)
      (fun d => { d with generation := record.generation, fencingToken := record.fencingToken })
      s.drivers
    pure ({ s with driverRotations, drivers }, .rotated record)

def newAccount (q : CreateAccountRequest) : AccountRecord where
  accountId := id16 "nlos/resource-account/id/v1" [q.idempotencyKey.bytes]
  initialCredit := q.initialCredit
  availableCredit := q.initialCredit
  createdAtMs := q.createdAtMs

def createAccount (q : CreateAccountRequest) (draw : EndpointDraw) :
    Result (ResourceAuthority × AccountRecord) :=
  match s.accounts.find? (·.idempotencyKey = q.idempotencyKey) with
  | some row => do
    refuseIf (row.initialCredit ≠ q.initialCredit) .idempotencyConflict
    pure (s, row.toAccountRecord)
  | none => do
    let record := newAccount q
    encode q.initialCredit
    encode q.createdAtMs
    let accounts ← insertInto
      (fun a => a.accountId = record.accountId ∨ a.idempotencyKey = q.idempotencyKey)
      { record with idempotencyKey := q.idempotencyKey } s.accounts
    let resourceLedgerEndpointProofs ← insertInto
      (fun p => p.accountId = record.accountId ∨ p.participantId = draw.participantId ∨
        p.admissionReceiptId = draw.admissionReceiptId)
      ⟨record.accountId, draw.participantId, .initial, draw.admissionReceiptId⟩
      s.resourceLedgerEndpointProofs
    pure ({ s with accounts, resourceLedgerEndpointProofs }, record)

def createQuote (q : CreateQuoteRequest) : Result (ResourceAuthority × QuoteDecision) := do
  refuseIf (q.upperBound = 0) .invalidUpperBound
  match s.quotes.find? (·.idempotencyKey = q.idempotencyKey) with
  | some row => do
    refuseIf (row.toQuoteTerms ≠ q.toQuoteTerms) .idempotencyConflict
    pure (s, .replayed row.toQuoteRecord)
  | none => do
    let driver ← s.activeDriver q.driverId q.driverGeneration q.driverFencingToken
    let record : QuoteRecord := {
      q.toQuoteTerms with
      quoteId := id16 "nlos/quote/id/v1"
        [q.idempotencyKey.bytes, q.operationProposalDigest.bytes]
      deviceId := driver.deviceId
      createdAtMs := q.createdAtMs }
    encode q.driverGeneration.val
    encode q.upperBound
    encode q.validUntilMs
    encode q.createdAtMs
    q.demandCapacity.encode
    let quotes ← insertInto
      (fun r => r.quoteId = record.quoteId ∨ r.idempotencyKey = q.idempotencyKey)
      { record with idempotencyKey := q.idempotencyKey } s.quotes
    pure ({ s with quotes }, .created record)

end ResourceAuthority

end Nlos.Resource
