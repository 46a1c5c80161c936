import Nlos.Capability.Model
import Nlos.Lib.Rows

/-!
# Drivers, accounts, quotes and reservations

The records, requests and errors of the resource authority. An account holds credit, a quote
bounds the cost of an operation, a reservation takes that bound out of the account before the
operation is dispatched and gives back what the operation did not use.
-/

namespace Nlos.Resource

open Lib Capability

abbrev DriverId := Word 16
abbrev DeviceId := Word 16
abbrev ResourceAccountId := Word 16
abbrev QuoteId := Word 16
abbrev ReservationId := Word 16
abbrev CallId := Word 16
abbrev OperationId := Word 16
abbrev TaskParticipantId := Word 16
abbrev FencingToken := Word 32

inductive DemandDimension where
  | cpuShares
  | memoryMib
  | ioWeight
deriving DecidableEq

/-- What a reservation declares to need, or a quote to offer, in each dimension. -/
structure ResourceDemand where
  (cpuShares memoryMib ioWeight : U64)
deriving DecidableEq

def DemandDimension.all : List DemandDimension := [.cpuShares, .memoryMib, .ioWeight]

def DemandDimension.demandOf (d : ResourceDemand) : DemandDimension → U64
  | .cpuShares => d.cpuShares
  | .memoryMib => d.memoryMib
  | .ioWeight => d.ioWeight

namespace ResourceDemand

def exceedanceOf (demand capacity : ResourceDemand) : Option (DemandDimension × U64 × U64) :=
  DemandDimension.all.findSome? fun dimension =>
    if dimension.demandOf capacity < dimension.demandOf demand then
      some (dimension, dimension.demandOf demand, dimension.demandOf capacity)
    else none

/-- `v.saturating_mul(percent) / 100`. -/
def scaled (v percent : U64) : U64 :=
  ⟨min (v.val * percent.val) (256 ^ 8 - 1) / 100, by omega⟩

def throttledToPercent (d : ResourceDemand) (percent : U64) : ResourceDemand :=
  if 100 ≤ percent.val then d
  else ⟨scaled d.cpuShares percent, scaled d.memoryMib percent, scaled d.ioWeight percent⟩

end ResourceDemand

structure RegisterDriverRequest where
  profileDigest : Digest
  idempotencyKey : IdempotencyKey
  createdAtMs : U64

structure RotateDriverRequest where
  driverId : DriverId
  expectedGeneration : Generation
  expectedFencingToken : FencingToken
  idempotencyKey : IdempotencyKey
  rotatedAtMs : U64

structure DriverRecord where
  driverId : DriverId
  deviceId : DeviceId
  generation : Generation
  fencingToken : FencingToken
  profileDigest : Digest
  createdAtMs : U64
deriving DecidableEq

inductive DriverDecision where
  | registered (record : DriverRecord)
  | replayed (record : DriverRecord)

inductive DriverRotationDecision where
  | rotated (record : DriverRecord)
  | replayed (record : DriverRecord)

structure EndpointDraw where
  participantId : TaskParticipantId
  admissionReceiptId : ReceiptId

structure CreateAccountRequest where
  initialCredit : U64
  idempotencyKey : IdempotencyKey
  createdAtMs : U64

structure AccountRecord where
  accountId : ResourceAccountId
  (initialCredit availableCredit createdAtMs : U64)
deriving DecidableEq

structure QuoteTerms where
  driverId : DriverId
  driverGeneration : Generation
  driverFencingToken : FencingToken
  (operationProposalDigest pricingVersion : Digest)
  upperBound : U64
  demandCapacity : ResourceDemand
  validUntilMs : U64
deriving DecidableEq

structure CreateQuoteRequest extends QuoteTerms where
  idempotencyKey : IdempotencyKey
  createdAtMs : U64

structure QuoteRecord extends QuoteTerms where
  quoteId : QuoteId
  deviceId : DeviceId
  createdAtMs : U64
deriving DecidableEq

inductive QuoteDecision where
  | created (record : QuoteRecord)
  | replayed (record : QuoteRecord)

structure ReserveRequest where
  accountId : ResourceAccountId
  quoteId : QuoteId
  callId : CallId
  operationId : OperationId
  idempotencyKey : IdempotencyKey
  demand : ResourceDemand
  reservedAtMs : U64

inductive ReservationState where
  | reserved
  | active
  | quarantined
  | finalized
deriving DecidableEq

/-- The columns of a reservation apart from its state. -/
structure ReservationBody where
  reservationId : ReservationId
  accountId : ResourceAccountId
  quoteId : QuoteId
  callId : CallId
  operationId : OperationId
  driverId : DriverId
  deviceId : DeviceId
  driverGeneration : Generation
  driverFencingToken : FencingToken
  upperBound : U64
  demand : ResourceDemand
  activationToken : Digest
  createdAtMs : U64
  activationReceiptId : Option ReceiptId
  (usageHighWaterSeq usageHighWater : U64)
  quarantineReceiptId : Option ReceiptId
  quarantinedAtMs : Option U64
  finalizeReceiptId : Option ReceiptId
  finalizedAtMs : Option U64
deriving DecidableEq

structure ReservationRecord extends ReservationBody where
  state : ReservationState
deriving DecidableEq

inductive ReservationDecision where
  | reserved (record : ReservationRecord)
  | replayed (record : ReservationRecord)

structure ActivateReservationRequest where
  reservationId : ReservationId
  callId : CallId
  operationId : OperationId
  driverId : DriverId
  driverGeneration : Generation
  driverFencingToken : FencingToken
  activationToken : Digest
  activatedAtMs : U64

structure ActivationReceipt where
  receiptId : ReceiptId
  reservationId : ReservationId
  operationId : OperationId
  activatedAtMs : U64
deriving DecidableEq

inductive ActivationDecision where
  | activated (receipt : ActivationReceipt)
  | replayed (receipt : ActivationReceipt)

structure ConsumeReservationRequest where
  reservationId : ReservationId
  operationId : OperationId
  activationReceiptId : ReceiptId
  (sequence cumulativeUsage consumedAtMs : U64)

structure ConsumptionReceipt extends ConsumeReservationRequest where
  receiptId : ReceiptId

inductive ConsumeDecision where
  | recorded (receipt : ConsumptionReceipt)
  | replayed (receipt : ConsumptionReceipt)

structure QuarantineReservationRequest where
  reservationId : ReservationId
  operationId : OperationId
  activationReceiptId : ReceiptId
  reasonDigest : Digest
  quarantinedAtMs : U64

structure QuarantineReceipt extends QuarantineReservationRequest where
  receiptId : ReceiptId
  (highWaterSeq highWater : U64)

inductive QuarantineDecision where
  | quarantined (receipt : QuarantineReceipt)
  | replayed (receipt : QuarantineReceipt)

def QuarantineDecision.receipt : QuarantineDecision → QuarantineReceipt
  | .quarantined receipt | .replayed receipt => receipt

structure FinalizeReservationRequest where
  reservationId : ReservationId
  operationId : OperationId
  activationReceiptId : ReceiptId
  effectClosedProofDigest : Digest
  (finalSeq finalUsage finalizedAtMs : U64)

structure FinalizationReceipt extends FinalizeReservationRequest where
  receiptId : ReceiptId
  (highWaterSeq highWater refundCredit : U64)

inductive FinalizeDecision where
  | finalized (receipt : FinalizationReceipt)
  | replayed (receipt : FinalizationReceipt)

def FinalizeDecision.receipt : FinalizeDecision → FinalizationReceipt
  | .finalized receipt | .replayed receipt => receipt

structure RecordThrottleDecisionRequest where
  reservationId : ReservationId
  throttlePercent : U64
  (demandBefore demandAfter : ResourceDemand)
  idempotencyKey : IdempotencyKey
  decidedAtMs : U64

structure ThrottleDecisionReceipt where
  receiptId : ReceiptId
  reservationId : ReservationId
  operationId : OperationId
  (sequence throttlePercent : U64)
  (demandBefore demandAfter : ResourceDemand)
  decidedAtMs : U64

inductive ThrottleDecisionDecision where
  | recorded (receipt : ThrottleDecisionReceipt)
  | replayed (receipt : ThrottleDecisionReceipt)

inductive LlmBudgetDimension where
  | promptTokens
  | completionTokens
  | totalTokens
  | apiCalls
  | costMicrocredits
deriving DecidableEq

def LlmBudgetDimension.all : List LlmBudgetDimension :=
  [.promptTokens, .completionTokens, .totalTokens, .apiCalls, .costMicrocredits]

structure LlmTokenLimits where
  (maxPromptTokens maxCompletionTokens maxTotalTokens maxApiCalls maxCostMicrocredits : U64)
deriving DecidableEq

def LlmBudgetDimension.limitOf (limits : LlmTokenLimits) : LlmBudgetDimension → U64
  | .promptTokens => limits.maxPromptTokens
  | .completionTokens => limits.maxCompletionTokens
  | .totalTokens => limits.maxTotalTokens
  | .apiCalls => limits.maxApiCalls
  | .costMicrocredits => limits.maxCostMicrocredits

/-- One value for each metered quantity: the usage of a call, or the `consumed_` counters of a
budget. -/
structure LlmTokenUsage where
  (promptTokens completionTokens reasoningTokens totalTokens apiCalls costMicrocredits : U64)
deriving DecidableEq

namespace LlmTokenUsage

def zero : LlmTokenUsage := ⟨0, 0, 0, 0, 0, 0⟩

/-- The quantity that a dimension of the budget limits; reasoning tokens count only towards the
total. -/
def inDimension (usage : LlmTokenUsage) : LlmBudgetDimension → U64
  | .promptTokens => usage.promptTokens
  | .completionTokens => usage.completionTokens
  | .totalTokens => usage.totalTokens
  | .apiCalls => usage.apiCalls
  | .costMicrocredits => usage.costMicrocredits

def values (usage : LlmTokenUsage) : List U64 :=
  [usage.promptTokens, usage.completionTokens, usage.reasoningTokens, usage.totalTokens,
    usage.apiCalls, usage.costMicrocredits]

/-- The counters after a call, unless one of them overflows. -/
def checkedAdd (consumed usage : LlmTokenUsage) : Option LlmTokenUsage := do
  let promptTokens ← consumed.promptTokens.checkedAdd usage.promptTokens
  let completionTokens ← consumed.completionTokens.checkedAdd usage.completionTokens
  let reasoningTokens ← consumed.reasoningTokens.checkedAdd usage.reasoningTokens
  let totalTokens ← consumed.totalTokens.checkedAdd usage.totalTokens
  let apiCalls ← consumed.apiCalls.checkedAdd usage.apiCalls
  let costMicrocredits ← consumed.costMicrocredits.checkedAdd usage.costMicrocredits
  pure ⟨promptTokens, completionTokens, reasoningTokens, totalTokens, apiCalls, costMicrocredits⟩

end LlmTokenUsage

structure CreateLlmTokenBudgetRequest where
  accountId : ResourceAccountId
  limits : LlmTokenLimits
  idempotencyKey : IdempotencyKey
  createdAtMs : U64

structure UpdateLlmTokenBudgetRequest where
  accountId : ResourceAccountId
  expectedGeneration : Generation
  limits : LlmTokenLimits
  idempotencyKey : IdempotencyKey
  updatedAtMs : U64

structure LlmTokenBudgetRecord where
  accountId : ResourceAccountId
  generation : Generation
  limits : LlmTokenLimits
  consumed : LlmTokenUsage
  (createdAtMs updatedAtMs : U64)
deriving DecidableEq

inductive LlmTokenBudgetDecision where
  | created (record : LlmTokenBudgetRecord)
  | replayed (record : LlmTokenBudgetRecord)

inductive LlmTokenBudgetUpdateDecision where
  | updated (record : LlmTokenBudgetRecord)
  | replayed (record : LlmTokenBudgetRecord)

structure ConsumeLlmTokensRequest where
  accountId : ResourceAccountId
  operationId : OperationId
  (promptTokens completionTokens reasoningTokens apiCalls costMicrocredits : U64)
  idempotencyKey : IdempotencyKey
  consumedAtMs : U64

structure LlmTokenConsumptionReceipt where
  receiptId : ReceiptId
  accountId : ResourceAccountId
  operationId : OperationId
  sequence : U64
  usage : LlmTokenUsage
  (cumulativeTotalTokens cumulativeApiCalls cumulativeCostMicrocredits consumedAtMs : U64)

inductive LlmTokenConsumeDecision where
  | charged (receipt : LlmTokenConsumptionReceipt)
  | replayed (receipt : LlmTokenConsumptionReceipt)

inductive ResourceAuthorityError where
  | sqlite
  | idempotencyConflict
  | driverNotFound
  | accountNotFound
  | quoteNotFound
  | reservationNotFound
  | staleDriver
  | invalidUpperBound
  | quoteExpired
  | demandExceedsCapacity (dimension : DemandDimension) (demand capacity : U64)
  | insufficientCredit (available required : U64)
  | invalidUsageSequence
  | usageExceedsUpperBound (usage upperBound : U64)
  | usageNotMonotonic (previous reported : U64)
  | consumptionSequenceConflict
  | reservationBindingMismatch
  | reservationNotActive
  | reservationQuarantined
  | reservationFinalized
  | invalidQuarantineTimestamp
  | invalidFinalizeTimestamp
  | finalizeSequenceConflict
  | invalidThrottlePercent
  | staleThrottleDemand (expected reported : ResourceDemand)
  | invalidThrottleAdjustment (expected reported : ResourceDemand)
  | invalidThrottleTimestamp
  | llmTokenBudgetNotFound
  | llmTokenBudgetAlreadyExists
  | staleLlmTokenBudget (expected current : Generation)
  | invalidLlmBudgetTimestamp
  | llmBudgetUpdateBelowConsumed (dimension : LlmBudgetDimension) (consumed requestedLimit : U64)
  | invalidLlmTokenUsage
  | llmUsageArithmeticOverflow
  | llmTokenBudgetExhausted (dimension : LlmBudgetDimension) (requestedCumulative limit : U64)
  | corruptRecord (reason : String)
  | generationExhausted
deriving DecidableEq

/-- A string of bytes behind its length. -/
def framed (bytes : List UInt8) : List UInt8 := beBytes 8 bytes.length ++ bytes

def hash (tag : String) (parts : List (List UInt8)) : Word 32 :=
  Sha256.digest (framed tag.toUTF8.toList ++ parts.flatMap framed)

def id16 (tag : String) (parts : List (List UInt8)) : Word 16 :=
  Word.ofBytes 16 ((hash tag parts).bytes.take 16)

end Nlos.Resource
