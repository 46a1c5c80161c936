import Nlos.Resource.Authority

/-!
# Token budgets

An account may have one budget for model calls. A charge is recorded with a receipt and added to
the counters of the budget, in one transaction, when every counter stays within its limit.
-/

namespace Nlos.Resource

open Lib Capability

def ConsumeLlmTokensRequest.usage (request : ConsumeLlmTokensRequest) : Option LlmTokenUsage := do
  let sum ← request.promptTokens.checkedAdd request.completionTokens
  let totalTokens ← sum.checkedAdd request.reasoningTokens
  pure {
    promptTokens := request.promptTokens
    completionTokens := request.completionTokens
    reasoningTokens := request.reasoningTokens
    totalTokens := totalTokens
    apiCalls := request.apiCalls
    costMicrocredits := request.costMicrocredits }

namespace ResourceAuthority

variable (s : ResourceAuthority)

def llmTokenBudget (accountId : ResourceAccountId) : Option LlmTokenBudgetRecord :=
  LlmTokenBudgetRow.toLlmTokenBudgetRecord <$>
    s.llmTokenBudgets.find? (·.accountId = accountId)

def checkRange (values : List U64) : Result Unit :=
  values.forM fun value => refuseIf (2 ^ 63 ≤ value.val) .llmUsageArithmeticOverflow

def limitValues (limits : LlmTokenLimits) : List U64 :=
  [limits.maxPromptTokens, limits.maxCompletionTokens, limits.maxTotalTokens, limits.maxApiCalls,
    limits.maxCostMicrocredits]

def createLlmTokenBudget (request : CreateLlmTokenBudgetRequest) :
    Result (ResourceAuthority × LlmTokenBudgetDecision) :=
  match s.llmTokenBudgets.find? (·.idempotencyKey = request.idempotencyKey) with
  | some existing => do
    refuseIf (existing.accountId ≠ request.accountId ∨
      (existing.generation = .initial ∧ existing.limits ≠ request.limits)) .idempotencyConflict
    pure (s, .replayed existing.toLlmTokenBudgetRecord)
  | none => do
    refuseIf ((s.account request.accountId).isNone) .accountNotFound
    refuseIf ((s.llmTokenBudget request.accountId).isSome) .llmTokenBudgetAlreadyExists
    checkRange (limitValues request.limits)
    encode request.createdAtMs
    let record : LlmTokenBudgetRecord := {
      accountId := request.accountId
      generation := .initial
      limits := request.limits
      consumed := .zero
      createdAtMs := request.createdAtMs
      updatedAtMs := request.createdAtMs }
    let llmTokenBudgets ← insertInto
      (fun b => b.accountId = record.accountId ∨ b.idempotencyKey = request.idempotencyKey)
      { record with idempotencyKey := request.idempotencyKey } s.llmTokenBudgets
    pure ({ s with llmTokenBudgets }, .created record)

def checkNotBelowConsumed (consumed : LlmTokenUsage) (limits : LlmTokenLimits) : Result Unit :=
  LlmBudgetDimension.all.forM fun dimension =>
    refuseIf (dimension.limitOf limits < consumed.inDimension dimension)
      (.llmBudgetUpdateBelowConsumed dimension (consumed.inDimension dimension)
        (dimension.limitOf limits))

def updateLlmTokenBudget (request : UpdateLlmTokenBudgetRequest) :
    Result (ResourceAuthority × LlmTokenBudgetUpdateDecision) :=
  match s.llmTokenBudgetRevisions.find? (·.idempotencyKey = request.idempotencyKey) with
  | some revision => do
    refuseIf (revision.accountId ≠ request.accountId ∨
      revision.expectedGeneration ≠ request.expectedGeneration ∨
      revision.limits ≠ request.limits) .idempotencyConflict
    let current ← orRefuse (s.llmTokenBudget request.accountId) .llmTokenBudgetNotFound
    pure (s, .replayed { current with
      generation := revision.resultingGeneration
      limits := revision.limits
      updatedAtMs := revision.updatedAtMs })
  | none => do
    let current ← orRefuse (s.llmTokenBudget request.accountId) .llmTokenBudgetNotFound
    refuseIf (current.generation ≠ request.expectedGeneration)
      (.staleLlmTokenBudget request.expectedGeneration current.generation)
    refuseIf (request.updatedAtMs < current.updatedAtMs) .invalidLlmBudgetTimestamp
    checkNotBelowConsumed current.consumed request.limits
    checkRange (limitValues request.limits)
    let resultingGeneration ← orRefuse current.generation.checkedNext .generationExhausted
    let receiptId := id16 "nlos/llm-token-budget-revision/receipt/v1"
      ([request.accountId.bytes, request.idempotencyKey.bytes,
        request.expectedGeneration.val.bytes, resultingGeneration.val.bytes] ++
        (limitValues request.limits).map Word.bytes)
    encode request.expectedGeneration.val
    encode resultingGeneration.val
    encode request.updatedAtMs
    let llmTokenBudgetRevisions ← insertInto
      (fun v => v.receiptId = receiptId ∨ v.idempotencyKey = request.idempotencyKey)
      ⟨receiptId, request.idempotencyKey, request.accountId, request.expectedGeneration,
        resultingGeneration, request.limits, request.updatedAtMs⟩ s.llmTokenBudgetRevisions
    refuseIf ((s.llmTokenBudgets.countP fun b => b.accountId = request.accountId ∧
      b.generation = request.expectedGeneration) ≠ 1)
      (.corruptRecord "llm token budget update CAS lost")
    let llmTokenBudgets := updateRows
      (fun b => b.accountId = request.accountId ∧ b.generation = request.expectedGeneration)
      (fun b => { b with
        generation := resultingGeneration
        limits := request.limits
        updatedAtMs := request.updatedAtMs }) s.llmTokenBudgets
    pure ({ s with llmTokenBudgetRevisions, llmTokenBudgets }, .updated { current with
      generation := resultingGeneration
      limits := request.limits
      updatedAtMs := request.updatedAtMs })

def checkWithinLimits (next : LlmTokenUsage) (limits : LlmTokenLimits) : Result Unit :=
  LlmBudgetDimension.all.forM fun dimension =>
    refuseIf (dimension.limitOf limits < next.inDimension dimension)
      (.llmTokenBudgetExhausted dimension (next.inDimension dimension) (dimension.limitOf limits))

/-- `COALESCE(MAX(sequence), 0)` over the charges of an account. -/
def lastSequence (accountId : ResourceAccountId) : U64 :=
  ((s.llmTokenConsumptions.filter fun row => row.receipt.accountId = accountId).map
    fun row => row.receipt.sequence).foldr max 0

def charge (request : ConsumeLlmTokensRequest) (current : LlmTokenBudgetRecord)
    (usage next : LlmTokenUsage) : Result (ResourceAuthority × LlmTokenConsumeDecision) := do
  let sequence ← orRefuse ((s.lastSequence request.accountId).checkedAdd 1)
    .llmUsageArithmeticOverflow
  let receipt : LlmTokenConsumptionReceipt := {
    receiptId := id16 "nlos/llm-token-consumption/receipt/v1"
      ([request.accountId.bytes, request.operationId.bytes, request.idempotencyKey.bytes,
        sequence.bytes] ++ usage.values.map Word.bytes)
    accountId := request.accountId
    operationId := request.operationId
    sequence := sequence
    usage := usage
    cumulativeTotalTokens := next.totalTokens
    cumulativeApiCalls := next.apiCalls
    cumulativeCostMicrocredits := next.costMicrocredits
    consumedAtMs := request.consumedAtMs }
  encode sequence
  encode request.consumedAtMs
  let llmTokenConsumptions ← insertInto
    (fun row => row.receipt.receiptId = receipt.receiptId ∨
      row.idempotencyKey = request.idempotencyKey ∨
      (row.receipt.accountId = request.accountId ∧ row.receipt.sequence = sequence))
    ⟨request.idempotencyKey, receipt⟩ s.llmTokenConsumptions
  let counted (b : LlmTokenBudgetRow) : Bool :=
    b.accountId = request.accountId ∧ b.consumed.totalTokens = current.consumed.totalTokens ∧
      b.consumed.apiCalls = current.consumed.apiCalls ∧
      b.consumed.costMicrocredits = current.consumed.costMicrocredits
  refuseIf (s.llmTokenBudgets.countP counted ≠ 1)
    (.corruptRecord "llm token consumption CAS lost")
  let llmTokenBudgets := updateRows (fun b => counted b)
    (fun b => { b with
      consumed := next
      updatedAtMs := max current.updatedAtMs request.consumedAtMs }) s.llmTokenBudgets
  pure ({ s with llmTokenConsumptions, llmTokenBudgets }, .charged receipt)

def consumeLlmTokens (request : ConsumeLlmTokensRequest) :
    Result (ResourceAuthority × LlmTokenConsumeDecision) :=
  match s.llmTokenConsumptions.find? (·.idempotencyKey = request.idempotencyKey) with
  | some existing => do
    refuseIf (existing.receipt.accountId ≠ request.accountId ∨
      existing.receipt.operationId ≠ request.operationId ∨
      existing.receipt.usage.promptTokens ≠ request.promptTokens ∨
      existing.receipt.usage.completionTokens ≠ request.completionTokens ∨
      existing.receipt.usage.reasoningTokens ≠ request.reasoningTokens ∨
      existing.receipt.usage.apiCalls ≠ request.apiCalls ∨
      existing.receipt.usage.costMicrocredits ≠ request.costMicrocredits) .idempotencyConflict
    pure (s, .replayed existing.receipt)
  | none => do
    refuseIf (request.apiCalls = 0) .invalidLlmTokenUsage
    let usage ← orRefuse (request.usage) .llmUsageArithmeticOverflow
    let current ← orRefuse (s.llmTokenBudget request.accountId) .llmTokenBudgetNotFound
    refuseIf (request.consumedAtMs < current.createdAtMs) .invalidLlmBudgetTimestamp
    let next ← orRefuse (current.consumed.checkedAdd usage) .llmUsageArithmeticOverflow
    checkRange (usage.values ++ next.values)
    checkWithinLimits next current.limits
    s.charge request current usage next

end ResourceAuthority

end Nlos.Resource
