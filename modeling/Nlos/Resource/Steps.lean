import Nlos.Lib.KeyedRows
import Nlos.Lib.Run
import Nlos.Resource.Reservations
import Nlos.Resource.TokenBudget

/-!
# Calls on the resource authority

Every call is one transaction, so a refused call changes nothing. What the accepted ones do to
credit and reservations is one of a few changes, listed here once.
-/

namespace Nlos.Resource

open Lib Capability ReservationRow ReservationBody

variable {r : ReservationRecord} {q : ConsumeReservationRequest} {decision : ConsumeDecision}
  {quarantined : Option QuarantineReceipt}

inductive ResourceCall where
  | registerDriver (request : RegisterDriverRequest) (draw : EndpointDraw)
  | rotateDriver (request : RotateDriverRequest) (admissionReceiptId : ReceiptId)
  | createAccount (request : CreateAccountRequest) (draw : EndpointDraw)
  | createQuote (request : CreateQuoteRequest)
  | reserve (request : ReserveRequest)
  | activate (request : ActivateReservationRequest)
  | consume (request : ConsumeReservationRequest)
  | quarantine (request : QuarantineReservationRequest)
  | finalizeReservation (request : FinalizeReservationRequest)
  | recordThrottleDecision (request : RecordThrottleDecisionRequest)
  | createLlmTokenBudget (request : CreateLlmTokenBudgetRequest)
  | updateLlmTokenBudget (request : UpdateLlmTokenBudgetRequest)
  | consumeLlmTokens (request : ConsumeLlmTokensRequest)

inductive ResourceAnswer where
  | driver (decision : DriverDecision)
  | rotation (decision : DriverRotationDecision)
  | account (record : AccountRecord)
  | quote (decision : QuoteDecision)
  | reservation (decision : ReservationDecision)
  | activation (decision : ActivationDecision)
  | consumption (decision : ConsumeDecision)
  | quarantine (decision : QuarantineDecision)
  | finalization (decision : FinalizeDecision)
  | throttle (decision : ThrottleDecisionDecision)
  | budget (decision : LlmTokenBudgetDecision)
  | budgetUpdate (decision : LlmTokenBudgetUpdateDecision)
  | tokens (decision : LlmTokenConsumeDecision)

namespace ResourceAuthority

def call (s : ResourceAuthority) : ResourceCall → Result (ResourceAuthority × ResourceAnswer)
  | .registerDriver request draw => Prod.map id .driver <$> s.registerDriver request draw
  | .rotateDriver request receiptId => Prod.map id .rotation <$> s.rotateDriver request receiptId
  | .createAccount request draw => Prod.map id .account <$> s.createAccount request draw
  | .createQuote request => Prod.map id .quote <$> s.createQuote request
  | .reserve request => Prod.map id .reservation <$> s.reserve request
  | .activate request => Prod.map id .activation <$> s.activate request
  | .consume request => Prod.map id .consumption <$> s.consume request
  | .quarantine request => Prod.map id .quarantine <$> s.quarantine request
  | .finalizeReservation request => Prod.map id .finalization <$> s.finalizeReservation request
  | .recordThrottleDecision request => Prod.map id .throttle <$> s.recordThrottleDecision request
  | .createLlmTokenBudget request => Prod.map id .budget <$> s.createLlmTokenBudget request
  | .updateLlmTokenBudget request => Prod.map id .budgetUpdate <$> s.updateLlmTokenBudget request
  | .consumeLlmTokens request => Prod.map id .tokens <$> s.consumeLlmTokens request

/-- A call and the answer it gets; every call returns. -/
def step (s : ResourceAuthority) (call : ResourceCall) :
    Except Empty (ResourceAuthority × Result ResourceAnswer) :=
  .ok (commit s (s.call call))

end ResourceAuthority

abbrev ResourceEvent := Event ResourceAuthority ResourceCall (Result ResourceAnswer)

/-! ## What a call can do -/

namespace ReservationRow

/-- A reservation is activated once and frozen at most once before it is finalized. -/
inductive Advances (row : ReservationRow) : ReservationRow → Prop
  | activate (receiptId : ReceiptId) (state : row.state = .ok .reserved) :
      Advances row { row with activated := true, activationReceiptId := some receiptId }
  | quarantine (receiptId : ReceiptId) (atMs : U64) (state : row.state = .ok .active) : Advances row
        { row with quarantineReceiptId := some receiptId, quarantinedAtMs := some atMs }

variable {row : ReservationRow}

lemma state_eq_reserved : row.state = .ok .reserved ↔ row.activated = false := by
  unfold state
  cases row.activated <;> cases row.quarantineReceiptId <;> cases row.finalizeReceiptId <;> simp

lemma state_eq_active : row.state = .ok .active ↔
    row.activated = true ∧ row.quarantineReceiptId = none ∧ row.finalizeReceiptId = none := by
  unfold state
  cases row.activated <;> cases row.quarantineReceiptId <;> cases row.finalizeReceiptId <;> simp

lemma state_eq_quarantined : row.state = .ok .quarantined ↔
    row.activated = true ∧ row.quarantineReceiptId.isSome ∧ row.finalizeReceiptId = none := by
  unfold state
  cases row.activated <;> cases row.quarantineReceiptId <;> cases row.finalizeReceiptId <;> simp

lemma state_eq_finalized : row.state = .ok .finalized ↔
    row.activated = true ∧ row.quarantineReceiptId = none ∧ row.finalizeReceiptId.isSome := by
  unfold state
  cases row.activated <;> cases row.quarantineReceiptId <;> cases row.finalizeReceiptId <;> simp

/-- The row of a reservation that was just made. -/
structure IsNew (row : ReservationRow) : Prop where
  activated : row.activated = false
  usageHighWaterSeq : row.usageHighWaterSeq = 0
  usageHighWater : row.usageHighWater = 0
  quarantineReceiptId : row.quarantineReceiptId = none
  finalizeReceiptId : row.finalizeReceiptId = none

def reporting (row : ReservationRow) (receipt : ConsumptionReceipt) : ReservationRow :=
  { row with
    usageHighWaterSeq := receipt.sequence
    usageHighWater := receipt.cumulativeUsage }

def lifted (row : ReservationRow) : ReservationRow :=
  { row with
    quarantineReceiptId := none
    quarantinedAtMs := if row.quarantineReceiptId.isSome then none else row.quarantinedAtMs }

def settled (row : ReservationRow) (receipt : FinalizationReceipt) : ReservationRow :=
  { row.lifted with
    finalizeReceiptId := some receipt.receiptId
    finalizedAtMs := some receipt.finalizedAtMs }

end ReservationRow

def AccountRow.withAvailable (a : AccountRow) (availableCredit : U64) : AccountRow :=
  { a with availableCredit }

namespace ResourceAuthority

variable {s t : ResourceAuthority}

structure SameCredit (s t : ResourceAuthority) : Prop where
  accounts : t.accounts = s.accounts
  reservations : t.reservations = s.reservations
  consumptions : t.consumptionReceipts = s.consumptionReceipts
  finalizations : t.finalizeReceipts = s.finalizeReceipts

structure OpensAccount (s : ResourceAuthority) (row : AccountRow) (t : ResourceAuthority) :
    Prop where
  fresh : ∀ a ∈ s.accounts, a.accountId ≠ row.accountId
  full : row.availableCredit = row.initialCredit
  accounts : t.accounts = s.accounts ++ [row]
  reservations : t.reservations = s.reservations
  consumptions : t.consumptionReceipts = s.consumptionReceipts
  finalizations : t.finalizeReceipts = s.finalizeReceipts

structure Holds (s : ResourceAuthority) (row : ReservationRow) (account : AccountRow)
    (t : ResourceAuthority) : Prop where
  isNew : row.IsNew
  fresh : ∀ r ∈ s.reservations, r.reservationId ≠ row.reservationId
  stored : account ∈ s.accounts
  pays : account.accountId = row.accountId
  covers : row.upperBound ≤ account.availableCredit
  accounts : t.accounts = replaceRow (fun a : AccountRow => a.accountId)
    (account.withAvailable (account.availableCredit.saturatingSub row.upperBound)) s.accounts
  reservations : t.reservations = s.reservations ++ [row]
  consumptions : t.consumptionReceipts = s.consumptionReceipts
  finalizations : t.finalizeReceipts = s.finalizeReceipts

structure Advances (s : ResourceAuthority) (row row' : ReservationRow) (t : ResourceAuthority) :
    Prop where
  stored : row ∈ s.reservations
  advances : row.Advances row'
  accounts : t.accounts = s.accounts
  reservations : t.reservations =
    replaceRow (fun r : ReservationRow => r.reservationId) row' s.reservations
  consumptions : t.consumptionReceipts = s.consumptionReceipts
  finalizations : t.finalizeReceipts = s.finalizeReceipts

structure Records (s : ResourceAuthority) (row : ReservationRow) (receipt : ConsumptionReceipt)
    (t : ResourceAuthority) : Prop where
  stored : row ∈ s.reservations
  state : row.state = .ok .active
  binds : receipt.reservationId = row.reservationId
  later : row.usageHighWaterSeq < receipt.sequence
  monotone : row.usageHighWater ≤ receipt.cumulativeUsage
  bounded : receipt.cumulativeUsage ≤ row.upperBound
  accounts : t.accounts = s.accounts
  reservations : t.reservations =
    replaceRow (fun r : ReservationRow => r.reservationId) (row.reporting receipt) s.reservations
  consumptions : t.consumptionReceipts = s.consumptionReceipts ++ [receipt]
  finalizations : t.finalizeReceipts = s.finalizeReceipts

structure Settles (s : ResourceAuthority) (row : ReservationRow) (receipt : FinalizationReceipt)
    (account : AccountRow) (t : ResourceAuthority) : Prop where
  stored : row ∈ s.reservations
  state : row.state = .ok .active ∨ row.state = .ok .quarantined
  binds : receipt.reservationId = row.reservationId
  fresh : ∀ f ∈ s.finalizeReceipts, f.reservationId ≠ receipt.reservationId
  monotone : row.usageHighWater ≤ receipt.finalUsage
  bounded : receipt.finalUsage ≤ row.upperBound
  refund : receipt.refundCredit = row.upperBound.saturatingSub receipt.finalUsage
  known : account ∈ s.accounts
  pays : account.accountId = row.accountId
  fits : account.availableCredit.val + receipt.refundCredit.val < 2 ^ 63
  accounts : t.accounts = replaceRow (fun a : AccountRow => a.accountId)
    (account.withAvailable (account.availableCredit.saturatingAdd receipt.refundCredit)) s.accounts
  reservations : t.reservations =
    replaceRow (fun r : ReservationRow => r.reservationId) (row.settled receipt) s.reservations
  consumptions : t.consumptionReceipts = s.consumptionReceipts
  finalizations : t.finalizeReceipts = s.finalizeReceipts ++ [receipt]

inductive Change (s t : ResourceAuthority) : Prop
  | quiet (h : s.SameCredit t)
  | openAccount (row : AccountRow) (h : s.OpensAccount row t)
  | hold (row : ReservationRow) (account : AccountRow) (h : s.Holds row account t)
  | advance (row row' : ReservationRow) (h : s.Advances row row' t)
  | report (row : ReservationRow) (receipt : ConsumptionReceipt) (h : s.Records row receipt t)
  | settle (row : ReservationRow) (receipt : FinalizationReceipt) (account : AccountRow)
      (h : s.Settles row receipt account t)

structure SameTokens (s t : ResourceAuthority) : Prop where
  budgets : t.llmTokenBudgets = s.llmTokenBudgets
  charges : t.llmTokenConsumptions = s.llmTokenConsumptions

structure SameLedgers (s t : ResourceAuthority) : Prop extends SameCredit s t, SameTokens s t

lemma SameTokens.refl (s : ResourceAuthority) : SameTokens s s := ⟨rfl, rfl⟩

lemma SameTokens.trans (h : SameTokens s t) (h' : SameTokens t u) : SameTokens s u :=
  ⟨h'.budgets.trans h.budgets, h'.charges.trans h.charges⟩

namespace SameLedgers

lemma refl (s : ResourceAuthority) : SameLedgers s s := ⟨⟨rfl, rfl, rfl, rfl⟩, .refl s⟩

lemma trans (h : SameLedgers s t) (h' : SameLedgers t u) : SameLedgers s u where
  accounts := h'.accounts.trans h.accounts
  reservations := h'.reservations.trans h.reservations
  consumptions := h'.consumptions.trans h.consumptions
  finalizations := h'.finalizations.trans h.finalizations
  toSameTokens := h.toSameTokens.trans h'.toSameTokens

lemma effect (h : SameLedgers s t) : s.Change t ∧ s.SameTokens t :=
  ⟨.quiet h.toSameCredit, h.toSameTokens⟩

end SameLedgers

structure Distinct (s : ResourceAuthority) : Prop where
  accounts : Keyed (fun a : AccountRow => a.accountId) s.accounts
  reservations : Keyed (fun r : ReservationRow => r.reservationId) s.reservations

lemma distinct_new : Distinct .new := ⟨keyed_nil _, keyed_nil _⟩

lemma distinct_of_change (hs : s.Distinct) (h : s.Change t) : t.Distinct := by
  cases h with
  | quiet h => exact ⟨h.accounts ▸ hs.accounts, h.reservations ▸ hs.reservations⟩
  | openAccount row h =>
    refine ⟨?_, h.reservations ▸ hs.reservations⟩
    rw [h.accounts]
    exact hs.accounts.append_singleton h.fresh
  | hold row account h =>
    refine ⟨?_, ?_⟩
    · rw [h.accounts]
      exact hs.accounts.replaceRow
    · rw [h.reservations]
      exact hs.reservations.append_singleton h.fresh
  | advance row row' h =>
    refine ⟨h.accounts ▸ hs.accounts, ?_⟩
    rw [h.reservations]
    exact hs.reservations.replaceRow
  | report row receipt h =>
    refine ⟨h.accounts ▸ hs.accounts, ?_⟩
    rw [h.reservations]
    exact hs.reservations.replaceRow
  | settle row receipt account h =>
    refine ⟨?_, ?_⟩
    · rw [h.accounts]
      exact hs.accounts.replaceRow
    · rw [h.reservations]
      exact hs.reservations.replaceRow

lemma exists_row_of_requireReservation {reservationId}
    (h : s.requireReservation reservationId = .ok r) :
    ∃ row ∈ s.reservations, row.reservationId = reservationId ∧
      row.toReservationBody = r.toReservationBody ∧ row.state = .ok r.state := by
  simp only [requireReservation, bind_eq_ok, orRefuse_eq_ok, reservation] at h
  obtain ⟨_, hfound, rfl⟩ := h
  cases hrow : s.reservations.find? (·.reservationId = reservationId) with
  | none =>
    rw [hrow] at hfound
    cases hfound
  | some row =>
    rw [hrow] at hfound
    obtain ⟨record, hrecord, hsome⟩ := map_eq_ok.mp hfound
    obtain rfl := Option.some.inj hsome
    simp only [ReservationRow.record, bind_eq_ok, pure_eq_ok] at hrecord
    obtain ⟨state, hstate, rfl⟩ := hrecord
    obtain ⟨hmem, hid⟩ := mem_of_find? hrow
    exact ⟨row, hmem, of_decide_eq_true hid, rfl, hstate⟩

lemma updateReservation_eq_ok {p : ReservationRow → Prop} [DecidablePred p]
    (h : s.updateReservation p f reason = .ok t) :
    t = { s with reservations := updateRows p f s.reservations } := by
  simp only [updateReservation, bind_eq_ok, pure_eq_ok] at h
  obtain ⟨-, -, rfl⟩ := h
  rfl

lemma account_eq_some (hs : s.Distinct) {accountId record}
    (h : s.account accountId = some record) :
    ∃ row ∈ s.accounts, row.accountId = accountId ∧ row.toAccountRecord = record := by
  obtain ⟨row, hrow, rfl⟩ := Option.map_eq_some_iff.mp h
  obtain ⟨hmem, hid⟩ := hs.accounts.find?_eq_some_iff.mp hrow
  exact ⟨row, hmem, hid, rfl⟩

/-! ## The changes of each command -/

lemma effect_of_createAccount {q draw record} (h : s.createAccount q draw = .ok (t, record)) :
    s.Change t ∧ s.SameTokens t := by
  unfold createAccount at h
  split at h
  · obtain rfl := eq_of_bind_pure h
    exact (SameLedgers.refl _).effect
  · simp only [bind_eq_ok, insertOrRefuse_eq_ok, pure_eq_ok, Prod.mk.injEq] at h
    obtain ⟨-, -, -, -, accounts, ⟨hfresh, rfl⟩, proofs, -, rfl, -⟩ := h
    refine ⟨.openAccount { newAccount q with idempotencyKey := q.idempotencyKey } ?_, ⟨rfl, rfl⟩⟩
    exact ⟨fun a ha hid => hfresh a ha (.inl hid), rfl, rfl, rfl, rfl, rfl⟩

lemma holds_of_holdCredit (hs : s.Distinct) {q quote} (h : s.holdCredit q quote = .ok t) :
    (∃ account, s.Holds (newReservation q quote) account t) ∧ s.SameTokens t := by
  simp only [holdCredit, bind_eq_ok, orRefuse_eq_ok, refuseIf_eq_ok, insertOrRefuse_eq_ok,
    pure_eq_ok, not_lt] at h
  obtain ⟨record, hrecord, -, hcovers, -, -, -, -, -, -, -, -, -, -, reservations, ⟨hfresh, rfl⟩,
    rfl⟩ := h
  obtain ⟨account, hstored, hid, rfl⟩ := account_eq_some hs hrecord
  refine ⟨⟨account, ?_⟩, ⟨rfl, rfl⟩⟩
  refine ⟨⟨rfl, rfl, rfl, rfl, rfl⟩, fun r hr hclash => hfresh r hr (.inl hclash), hstored, hid,
    hcovers, ?_, rfl, rfl, rfl⟩
  exact hs.accounts.updateRows_eq_replaceRow hstored ⟨hid, hcovers⟩
    (fun a ha => ha.1.trans hid.symm) rfl

lemma effect_of_reserve (hs : s.Distinct) {q decision} (h : s.reserve q = .ok (t, decision)) :
    s.Change t ∧ s.SameTokens t := by
  unfold reserve at h
  split at h
  · obtain rfl := eq_of_bind_bind_pure h
    exact (SameLedgers.refl _).effect
  · rw [bind_eq_ok] at h
    obtain ⟨quote, -, h⟩ := h
    rw [bind_eq_ok] at h
    obtain ⟨driver, -, h⟩ := h
    rw [bind_eq_ok] at h
    obtain ⟨-, -, h⟩ := h
    split at h
    · cases h
    · simp only [bind_eq_ok, pure_eq_ok, Prod.mk.injEq] at h
      obtain ⟨s', hhold, -, -, -, -, rfl, -⟩ := h
      obtain ⟨⟨account, hholds⟩, htokens⟩ := holds_of_holdCredit hs hhold
      exact ⟨.hold _ account hholds, htokens⟩

lemma effect_of_activate (hs : s.Distinct) {q decision} (h : s.activate q = .ok (t, decision)) :
    s.Change t ∧ s.SameTokens t := by
  rw [activate, bind_eq_ok] at h
  obtain ⟨r, hr, h⟩ := h
  obtain ⟨row, hrow, -, hbody, hstate⟩ := exists_row_of_requireReservation hr
  simp only [bind_eq_ok] at h
  obtain ⟨-, -, -, -, h⟩ := h
  cases hcase : r.state with
  | quarantined => simp [hcase] at h
  | finalized => simp [hcase] at h
  | active =>
    simp only [hcase, bind_eq_ok, pure_eq_ok, Prod.mk.injEq] at h
    obtain ⟨-, -, rfl, -⟩ := h
    exact (SameLedgers.refl _).effect
  | reserved =>
    simp only [hcase, bind_eq_ok, pure_eq_ok, Prod.mk.injEq] at h
    obtain ⟨-, -, receipts, -, -, -, rfl, -⟩ := h
    rw [hcase] at hstate
    have hid : row.reservationId = r.reservationId :=
      congrArg reservationId hbody
    have hinactive := state_eq_reserved.mp hstate
    refine ⟨.advance row _ ⟨hrow, .activate (newActivation r q.activatedAtMs).receiptId hstate,
      rfl, ?_, rfl, rfl⟩, ⟨rfl, rfl⟩⟩
    exact hs.reservations.updateRows_eq_replaceRow hrow ⟨hid, hinactive⟩
      (fun q hq => hq.1.trans hid.symm) rfl

lemma records_of_recordConsumption (hs : s.Distinct) {row} (hrow : row ∈ s.reservations)
    (hbody : row.toReservationBody = r.toReservationBody) (hstate : row.state = .ok .active)
    (hid : row.reservationId = q.reservationId) (h : s.recordConsumption r q = .ok (t, decision)) :
    s.Records row (consumptionReceiptFor q) t ∧ s.SameTokens t := by
  simp only [recordConsumption, bind_eq_ok, refuseIf_eq_ok, insertOrRefuse_eq_ok, pure_eq_ok,
    not_le, not_lt, Prod.mk.injEq] at h
  obtain ⟨-, hlater, -, hmonotone, -, hbounded, -, -, -, -, -, -, receipts, ⟨-, rfl⟩, s', hupdate,
    rfl, -⟩ := h
  obtain rfl := updateReservation_eq_ok hupdate
  have hseq : row.usageHighWaterSeq = r.usageHighWaterSeq :=
    congrArg usageHighWaterSeq hbody
  have husage : row.usageHighWater = r.usageHighWater :=
    congrArg usageHighWater hbody
  have hupper : row.upperBound = r.upperBound := congrArg upperBound hbody
  refine ⟨⟨hrow, hstate, hid.symm, hseq ▸ hlater, husage ▸ hmonotone, hupper ▸ hbounded, rfl, ?_,
    rfl, rfl⟩, ⟨rfl, rfl⟩⟩
  exact hs.reservations.updateRows_eq_replaceRow hrow
    ⟨hid, (state_eq_active.mp hstate).1, hseq, husage⟩
    (fun q hq => hq.1.trans hid.symm) rfl

lemma records_of_consume (hs : s.Distinct) (h : s.consume q = .ok (t, decision)) :
    (t = s ∨ ∃ row receipt, s.Records row receipt t) ∧ s.SameTokens t := by
  simp only [consume, bind_eq_ok, refuseIf_eq_ok, not_not] at h
  obtain ⟨-, -, r, hr, -, hactive, -, -, -, -, -, -, h⟩ := h
  obtain ⟨row, hrow, hid, hbody, hstate⟩ := exists_row_of_requireReservation hr
  split at h
  · obtain rfl := eq_of_bind_pure h
    exact ⟨.inl rfl, .refl _⟩
  · rw [hactive] at hstate
    obtain ⟨hrecords, htokens⟩ := records_of_recordConsumption hs hrow hbody hstate hid h
    exact ⟨.inr ⟨row, _, hrecords⟩, htokens⟩

/-- A freeze moves an active reservation or repeats one that did. -/
lemma advances_of_quarantine (hs : s.Distinct) {q decision}
    (h : s.quarantine q = .ok (t, decision)) :
    (t = s ∨ ∃ row receiptId atMs, row.state = .ok .active ∧ s.Advances row
      { row with quarantineReceiptId := some receiptId, quarantinedAtMs := some atMs } t) ∧
      s.SameTokens t := by
  rw [quarantine, bind_eq_ok] at h
  obtain ⟨r, hr, h⟩ := h
  obtain ⟨row, hrow, hid, hbody, hstate⟩ := exists_row_of_requireReservation hr
  split at h
  · obtain rfl := eq_of_bind_pure h
    exact ⟨.inl rfl, .refl _⟩
  · simp only [bind_eq_ok, refuseIf_eq_ok, insertOrRefuse_eq_ok, pure_eq_ok, not_not,
      Prod.mk.injEq] at h
    obtain ⟨-, -, -, hactive, activation, -, -, -, -, -, -, -, -, -, -, -, receipts, -, s', hupdate,
      rfl, -⟩ := h
    obtain rfl := updateReservation_eq_ok hupdate
    rw [hactive] at hstate
    obtain ⟨hactivated, hfree, -⟩ := state_eq_active.mp hstate
    refine ⟨.inr ⟨row, (newQuarantine r q).receiptId, q.quarantinedAtMs, hstate, hrow,
      .quarantine _ _ hstate, rfl, ?_, rfl, rfl⟩, ⟨rfl, rfl⟩⟩
    exact hs.reservations.updateRows_eq_replaceRow hrow ⟨hid, hactivated, hfree⟩
      (fun q hq => hq.1.trans hid.symm) rfl

lemma liftQuarantine_eq_ok (hs : s.Distinct)
    (hrow : row ∈ s.reservations) (hsome : quarantined.isSome = row.quarantineReceiptId.isSome)
    (hactivated : row.activated = true) (hopen : row.finalizeReceiptId = none)
    (h : s.liftQuarantine row.reservationId quarantined = .ok t) : t = { s with
      reservations := replaceRow (fun r : ReservationRow => r.reservationId) row.lifted
        s.reservations } := by
  unfold liftQuarantine at h
  split_ifs at h with hlift
  · obtain rfl := updateReservation_eq_ok h
    rw [hsome] at hlift
    rw [hs.reservations.updateRows_eq_replaceRow hrow ⟨rfl, hactivated, hlift, hopen⟩
      (fun q hq => hq.1) rfl, lifted, if_pos hlift]
  · obtain rfl := pure_eq_ok.mp h
    rw [hsome, Bool.not_eq_true, Option.isSome_eq_false_iff, Option.isNone_iff_eq_none] at hlift
    have hsame : row.lifted = row := by
      rw [lifted, hlift]
      rcases row with ⟨⟨⟩⟩
      simp_all
    rw [hsame, hs.reservations.replaceRow_of_mem hrow]

lemma credit_eq_ok (hs : Keyed (fun a : AccountRow => a.accountId) s.accounts)
    {accountId amount} (h : s.credit accountId amount = .ok t) :
    ∃ account ∈ s.accounts, account.accountId = accountId ∧
      account.availableCredit.val + amount.val < 2 ^ 63 ∧ t = { s with
        accounts := replaceRow (fun a : AccountRow => a.accountId)
          (account.withAvailable (account.availableCredit.saturatingAdd amount)) s.accounts } := by
  simp only [credit, bind_eq_ok, refuseIf_eq_ok, pure_eq_ok, not_not, not_exists, not_and,
    not_le] at h
  obtain ⟨-, hfits, -, hcount, rfl⟩ := h
  have hpos : 0 < s.accounts.countP fun a => a.accountId = accountId := by omega
  obtain ⟨account, hmem, hid⟩ := List.countP_pos_iff.mp hpos
  have hid := of_decide_eq_true hid
  refine ⟨account, hmem, hid, hfits account hmem hid, ?_⟩
  rw [hs.updateRows_eq_replaceRow hmem hid (fun a ha => ha.trans hid.symm) rfl]
  rfl

lemma settles_of_settle (hs : s.Distinct) {row} (hrow : row ∈ s.reservations)
    (hbody : row.toReservationBody = r.toReservationBody)
    (hstate : row.state = .ok .active ∨ row.state = .ok .quarantined)
    (hsome : quarantined.isSome = row.quarantineReceiptId.isSome)
    {q} (hid : row.reservationId = q.reservationId)
    (hmonotone : row.usageHighWater ≤ q.finalUsage) (hbounded : q.finalUsage ≤ row.upperBound)
    {decision} (h : s.settle r quarantined q = .ok (t, decision)) :
    decision = .finalized (finalizationReceipt r q) ∧
      (∃ account, s.Settles row (finalizationReceipt r q) account t) ∧ s.SameTokens t := by
  simp only [settle, bind_eq_ok, insertOrRefuse_eq_ok, pure_eq_ok, Prod.mk.injEq] at h
  obtain ⟨s₁, hlift, -, -, -, -, -, -, -, -, -, -, -, -, receipts, ⟨hfresh, rfl⟩, s₂, hupdate, s₃,
    hcredit, rfl, rfl⟩ := h
  have hupper : row.upperBound = r.upperBound := congrArg upperBound hbody
  have haccount : row.accountId = r.accountId := congrArg accountId hbody
  have hshape : row.activated = true ∧ row.finalizeReceiptId = none := by
    rcases hstate with hactive | hquarantined
    · obtain ⟨hactivated, -, hopen⟩ := state_eq_active.mp hactive
      exact ⟨hactivated, hopen⟩
    · obtain ⟨hactivated, -, hopen⟩ := state_eq_quarantined.mp hquarantined
      exact ⟨hactivated, hopen⟩
  rw [← hid] at hlift
  have hlifted := liftQuarantine_eq_ok hs hrow hsome hshape.1 hshape.2 hlift
  have hupdated := updateReservation_eq_ok hupdate
  have haccounts : s₂.accounts = s.accounts := by rw [hupdated, hlifted]
  have hreservations : s₂.reservations =
      replaceRow (fun x : ReservationRow => x.reservationId)
        (row.settled (finalizationReceipt r q)) s.reservations := by
    have hkeyed : Keyed (fun x : ReservationRow => x.reservationId) s₁.reservations := by
      rw [hlifted]
      exact hs.reservations.replaceRow
    have hmem : row.lifted ∈ s₁.reservations := by
      rw [hlifted]
      exact mem_replaceRow_self hrow rfl
    rw [hupdated]
    refine (hkeyed.updateRows_eq_replaceRow hmem ⟨hid, hshape.1, rfl, hshape.2⟩
      (fun x hx => hx.1.trans hid.symm) rfl).trans ?_
    rw [hlifted]
    exact replaceRow_replaceRow rfl
  obtain ⟨account, hknown, hpays, hfits, hcredited⟩ :=
    credit_eq_ok (haccounts ▸ hs.accounts) hcredit
  have htokens : s.SameTokens s₃ := by
    rw [hcredited, hupdated, hlifted]
    exact ⟨rfl, rfl⟩
  refine ⟨rfl, ⟨account, ?_⟩, htokens⟩
  refine ⟨hrow, hstate, hid.symm, ?_, hmonotone, hbounded, ?_, haccounts ▸ hknown,
    hpays.trans haccount.symm, hfits, ?_, ?_, ?_, ?_⟩
  · rw [hlifted] at hfresh
    exact fun f hf hclash => hfresh f hf (.inr hclash)
  · rw [hupper]
    rfl
  · rw [hcredited, haccounts]
  · rw [hcredited, hreservations]
  · rw [hcredited, hupdated, hlifted]
  · rw [hcredited, hupdated, hlifted]

lemma settledQuarantine_eq_ok (h : s.settledQuarantine r = .ok quarantined) :
    (r.state = .active ∧ quarantined = none) ∨
      (r.state = .quarantined ∧ quarantined.isSome = true) := by
  unfold settledQuarantine at h
  cases hcase : r.state with
  | reserved => simp [hcase] at h
  | finalized => simp [hcase] at h
  | active =>
    simp only [hcase, pure_eq_ok] at h
    exact .inl ⟨rfl, h.symm⟩
  | quarantined =>
    simp only [hcase, map_eq_ok] at h
    obtain ⟨receipt, -, rfl⟩ := h
    exact .inr ⟨rfl, rfl⟩

/-- A settlement is made with what the caller reports, or repeats one that was. -/
lemma settles_of_finalizeReservation (hs : s.Distinct) {q decision}
    (h : s.finalizeReservation q = .ok (t, decision)) :
    (t = s ∨ ∃ row receipt account, decision = .finalized receipt ∧
      receipt.toFinalizeReservationRequest = q ∧ s.Settles row receipt account t) ∧
      s.SameTokens t := by
  rw [finalizeReservation, bind_eq_ok] at h
  obtain ⟨r, hr, h⟩ := h
  obtain ⟨row, hrow, hid, hbody, hstate⟩ := exists_row_of_requireReservation hr
  split at h
  · obtain rfl := eq_of_bind_pure h
    exact ⟨.inl rfl, .refl _⟩
  · simp only [bind_eq_ok, refuseIf_eq_ok, not_lt] at h
    obtain ⟨-, -, quarantined, hquarantined, activation, -, -, -, -, -, -, -, -, hmonotone, -,
      hbounded, h⟩ := h
    have husage : row.usageHighWater = r.usageHighWater :=
      congrArg usageHighWater hbody
    have hupper : row.upperBound = r.upperBound := congrArg upperBound hbody
    have hsettleable : row.state = .ok .active ∨ row.state = .ok .quarantined := by
      rcases settledQuarantine_eq_ok hquarantined with ⟨hcase, -⟩ | ⟨hcase, -⟩
      · exact .inl (hcase ▸ hstate)
      · exact .inr (hcase ▸ hstate)
    have hsome : quarantined.isSome = row.quarantineReceiptId.isSome := by
      rcases settledQuarantine_eq_ok hquarantined with ⟨hcase, rfl⟩ | ⟨hcase, hsome⟩
      · rw [(state_eq_active.mp (hcase ▸ hstate)).2.1]
        rfl
      · rw [hsome, (state_eq_quarantined.mp (hcase ▸ hstate)).2.1]
    obtain ⟨hdecision, ⟨account, hsettles⟩, htokens⟩ := settles_of_settle hs hrow hbody hsettleable
      hsome hid (husage ▸ hmonotone) (hupper ▸ hbounded) h
    exact ⟨.inr ⟨row, _, account, hdecision, rfl, hsettles⟩, htokens⟩

lemma effect_of_consume (hs : s.Distinct) (h : s.consume q = .ok (t, decision)) :
    s.Change t ∧ s.SameTokens t := by
  obtain ⟨rfl | ⟨row, receipt, hrecords⟩, htokens⟩ := records_of_consume hs h
  · exact (SameLedgers.refl _).effect
  · exact ⟨.report row receipt hrecords, htokens⟩

lemma effect_of_quarantine (hs : s.Distinct) {q decision}
    (h : s.quarantine q = .ok (t, decision)) : s.Change t ∧ s.SameTokens t := by
  obtain ⟨rfl | ⟨row, receiptId, atMs, -, hadvances⟩, htokens⟩ := advances_of_quarantine hs h
  · exact (SameLedgers.refl _).effect
  · exact ⟨.advance row _ hadvances, htokens⟩

lemma effect_of_finalizeReservation (hs : s.Distinct) {q decision}
    (h : s.finalizeReservation q = .ok (t, decision)) : s.Change t ∧ s.SameTokens t := by
  obtain ⟨rfl | ⟨row, receipt, account, -, -, hsettles⟩, htokens⟩ :=
    settles_of_finalizeReservation hs h
  · exact (SameLedgers.refl _).effect
  · exact ⟨.settle row receipt account hsettles, htokens⟩

lemma sameLedgers_of_insertDriverGeneration {r}
    (h : s.insertDriverGeneration r = .ok t) : s.SameLedgers t := by
  simp only [insertDriverGeneration, bind_eq_ok, pure_eq_ok] at h
  obtain ⟨-, -, -, -, generations, -, rfl⟩ := h
  exact ⟨⟨rfl, rfl, rfl, rfl⟩, ⟨rfl, rfl⟩⟩

lemma sameLedgers_of_insertDriverGatewayGenerationProof {r receiptId}
    (h : s.insertDriverGatewayGenerationProof r receiptId = .ok t) : s.SameLedgers t := by
  simp only [insertDriverGatewayGenerationProof, bind_eq_ok, pure_eq_ok] at h
  obtain ⟨-, -, identity, -, proofs, -, rfl⟩ := h
  exact ⟨⟨rfl, rfl, rfl, rfl⟩, ⟨rfl, rfl⟩⟩

lemma sameLedgers_of_registerDriver {q draw decision}
    (h : s.registerDriver q draw = .ok (t, decision)) : s.SameLedgers t := by
  unfold registerDriver at h
  split at h
  · obtain rfl := eq_of_bind_pure h
    exact .refl _
  · simp only [insertInitialDriverGatewayEndpoint, bind_eq_ok, pure_eq_ok, Prod.mk.injEq] at h
    obtain ⟨-, -, drivers, -, s₁, hgeneration, s₂, ⟨identities, -, hproof⟩, rfl, -⟩ := h
    have hfirst := sameLedgers_of_insertDriverGeneration hgeneration
    have hsecond := sameLedgers_of_insertDriverGatewayGenerationProof hproof
    have hboth := hfirst.trans ⟨⟨hsecond.accounts, hsecond.reservations, hsecond.consumptions,
      hsecond.finalizations⟩, ⟨hsecond.budgets, hsecond.charges⟩⟩
    exact ⟨⟨hboth.accounts, hboth.reservations, hboth.consumptions, hboth.finalizations⟩,
      ⟨hboth.budgets, hboth.charges⟩⟩

lemma sameLedgers_of_rotateDriver {q receiptId decision}
    (h : s.rotateDriver q receiptId = .ok (t, decision)) : s.SameLedgers t := by
  unfold rotateDriver at h
  split at h
  · obtain rfl := eq_of_bind_bind_pure h
    exact .refl _
  · simp only [bind_eq_ok, pure_eq_ok, Prod.mk.injEq] at h
    obtain ⟨current, -, generation, -, s₁, hgeneration, s₂, hproof, rotations, -, -, -, rfl, -⟩ := h
    have hboth := (sameLedgers_of_insertDriverGeneration hgeneration).trans
      (sameLedgers_of_insertDriverGatewayGenerationProof hproof)
    exact ⟨⟨hboth.accounts, hboth.reservations, hboth.consumptions, hboth.finalizations⟩,
      ⟨hboth.budgets, hboth.charges⟩⟩

lemma sameLedgers_of_createQuote {q decision}
    (h : s.createQuote q = .ok (t, decision)) : s.SameLedgers t := by
  rw [createQuote, bind_eq_ok] at h
  obtain ⟨-, -, h⟩ := h
  split at h
  · obtain rfl := eq_of_bind_pure h
    exact .refl _
  · simp only [bind_eq_ok, pure_eq_ok, Prod.mk.injEq] at h
    obtain ⟨driver, -, -, -, -, -, -, -, -, -, -, -, quotes, -, rfl, -⟩ := h
    exact ⟨⟨rfl, rfl, rfl, rfl⟩, ⟨rfl, rfl⟩⟩

lemma sameLedgers_of_recordThrottleDecision {q decision}
    (h : s.recordThrottleDecision q = .ok (t, decision)) : s.SameLedgers t := by
  rw [recordThrottleDecision, bind_eq_ok] at h
  obtain ⟨-, -, h⟩ := h
  split at h
  · obtain rfl := eq_of_bind_pure h
    exact .refl _
  · simp only [extendThrottleChain, bind_eq_ok, pure_eq_ok, Prod.mk.injEq] at h
    obtain ⟨r, -, -, -, -, -, driver, -, -, -, -, -, -, -, -, -, -, -, -, -, -, -, decisions, -,
      rfl, -⟩ := h
    exact ⟨⟨rfl, rfl, rfl, rfl⟩, ⟨rfl, rfl⟩⟩

lemma sameCredit_of_createLlmTokenBudget {q decision}
    (h : s.createLlmTokenBudget q = .ok (t, decision)) : s.SameCredit t := by
  unfold createLlmTokenBudget at h
  split at h
  · obtain rfl := eq_of_bind_pure h
    exact ⟨rfl, rfl, rfl, rfl⟩
  · simp only [bind_eq_ok, pure_eq_ok, Prod.mk.injEq] at h
    obtain ⟨-, -, -, -, -, -, -, -, budgets, -, rfl, -⟩ := h
    exact ⟨rfl, rfl, rfl, rfl⟩

lemma sameCredit_of_updateLlmTokenBudget {q decision}
    (h : s.updateLlmTokenBudget q = .ok (t, decision)) : s.SameCredit t := by
  unfold updateLlmTokenBudget at h
  split at h
  · simp only [bind_eq_ok, pure_eq_ok, Prod.mk.injEq] at h
    obtain ⟨-, -, current, -, rfl, -⟩ := h
    exact ⟨rfl, rfl, rfl, rfl⟩
  · simp only [bind_eq_ok, pure_eq_ok, Prod.mk.injEq] at h
    obtain ⟨current, -, -, -, -, -, -, -, -, -, generation, -, -, -, -, -, -, -, revisions, -, -,
      -, rfl, -⟩ := h
    exact ⟨rfl, rfl, rfl, rfl⟩

lemma sameCredit_of_consumeLlmTokens {q decision} (h : s.consumeLlmTokens q = .ok (t, decision)) :
    s.SameCredit t := by
  unfold consumeLlmTokens at h
  split at h
  · obtain rfl := eq_of_bind_pure h
    exact ⟨rfl, rfl, rfl, rfl⟩
  · simp only [charge, bind_eq_ok, pure_eq_ok, Prod.mk.injEq] at h
    obtain ⟨-, -, usage, -, current, -, -, -, next, -, -, -, -, -, sequence, -, -, -, -, -,
      consumptions, -, -, -, rfl, -⟩ := h
    exact ⟨rfl, rfl, rfl, rfl⟩

lemma change_of_call (hs : s.Distinct)
    (h : s.call c = .ok (t, answer)) : s.Change t := by
  cases c <;> simp only [call, map_eq_ok, Prod.exists, Prod.map_apply, id_eq, Prod.mk.injEq] at h
    <;> obtain ⟨t, decision, h, rfl, -⟩ := h
  case registerDriver => exact (sameLedgers_of_registerDriver h).effect.1
  case rotateDriver => exact (sameLedgers_of_rotateDriver h).effect.1
  case createAccount => exact (effect_of_createAccount h).1
  case createQuote => exact (sameLedgers_of_createQuote h).effect.1
  case reserve => exact (effect_of_reserve hs h).1
  case activate => exact (effect_of_activate hs h).1
  case consume => exact (effect_of_consume hs h).1
  case quarantine => exact (effect_of_quarantine hs h).1
  case finalizeReservation => exact (effect_of_finalizeReservation hs h).1
  case recordThrottleDecision => exact (sameLedgers_of_recordThrottleDecision h).effect.1
  case createLlmTokenBudget => exact Change.quiet (sameCredit_of_createLlmTokenBudget h)
  case updateLlmTokenBudget => exact Change.quiet (sameCredit_of_updateLlmTokenBudget h)
  case consumeLlmTokens => exact Change.quiet (sameCredit_of_consumeLlmTokens h)

/-- Every call of the authority is one of the changes above. -/
lemma change_of_step (hs : s.Distinct)
    (h : s.step c = .ok (t, answer)) : s.Change t := by
  have hcommit := Except.ok.inj h
  cases hcall : s.call c with
  | error =>
    rw [hcall] at hcommit
    obtain ⟨rfl, -⟩ := Prod.mk.inj hcommit
    exact (SameLedgers.refl _).effect.1
  | ok =>
    rw [hcall] at hcommit
    obtain ⟨rfl, -⟩ := Prod.mk.inj hcommit
    exact change_of_call hs hcall

end ResourceAuthority

end Nlos.Resource
