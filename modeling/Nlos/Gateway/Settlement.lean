import Nlos.Gateway.ReconcileSteps

/-!
# Gateway settlements

Over any sequence of attestations, usage reports and freezes: the versions that are accepted rise,
credit moves only with a final attestation and at most once for each reservation, and nothing
supersedes a settlement.
-/

namespace Nlos.Gateway

open Lib Capability Resource List Table

def CoordinatorCall.interleaved : CoordinatorCall → Bool
  | .reconcile _ _ => true
  | .resource (.consume _) | .resource (.quarantine _) => true
  | .resource _ => false

def GatewayReconciliationAttestation.usage (a : GatewayReconciliationAttestation) : U64 :=
  a.disposition.encodedSeqAndUsage.2

def accepted? (reservationId : ReservationId) (e : CoordinatorEvent) : Option U64 :=
  match e.input, e.output with
  | .reconcile _ a, .reconcile (.ok decision) =>
    if a.reservationId = reservationId ∧ decision.isReplay = false then some a.receiptVersion
    else none
  | _, _ => none

def acceptedIn (h : List CoordinatorEvent) (reservationId : ReservationId) : List U64 :=
  h.filterMap (accepted? reservationId)

def stateAfter (e : CoordinatorEvent) : Coordinator := (e.pre.apply e.input).1

def MovesCreditOf (reservationId : ReservationId) (e : CoordinatorEvent) : Prop :=
  (∃ ctx a, e.input = .reconcile ctx a ∧ a.reservationId = reservationId) ∧
    (stateAfter e).resources.accounts ≠ e.pre.resources.accounts

/-- The call gives one account what its reservation did not use according to a final attestation,
which is at least what was ever reported and at most the bound. -/
def Refunds (e : CoordinatorEvent) : Prop :=
  ∃ ctx a row account credit, e.input = .reconcile ctx a ∧
    a.finality = .finalNonSupersedeable ∧ a.disposition ≠ .stillUncertainQuarantine ∧
    row ∈ e.pre.resources.reservations ∧ row.reservationId = a.reservationId ∧
    account ∈ e.pre.resources.accounts ∧ account.accountId = row.accountId ∧
    (stateAfter e).resources.accounts = replaceRow (fun x : AccountRow => x.accountId)
      (account.withAvailable credit) e.pre.resources.accounts ∧
    credit.val = account.availableCredit.val + (row.upperBound.val - a.usage.val) ∧
    a.usage ≤ row.upperBound ∧
    ∀ c ∈ e.pre.resources.consumptionsOf a.reservationId, c.cumulativeUsage ≤ a.usage

/-- No credit moves, no open reservation is settled and no frozen one is released. -/
def KeepsHolds (e : CoordinatorEvent) : Prop :=
  (stateAfter e).resources.accounts = e.pre.resources.accounts ∧
    ∀ r ∈ e.pre.resources.reservations, ∃ r' ∈ (stateAfter e).resources.reservations,
      r'.reservationId = r.reservationId ∧
        (r.state ≠ .ok .finalized → r'.state ≠ .ok .finalized) ∧
        (r.state = .ok .quarantined → r'.state = .ok .quarantined)

namespace Coordinator

variable {g g' : Coordinator} {ctx : ApplyGatewayReconciliationContext}
  {a : GatewayReconciliationAttestation} {result : Reconciled GatewayReconciliationDecision}

inductive LedgerChange (g : Coordinator) (a : GatewayReconciliationAttestation)
    (ledger : GatewayReconciliationLedger) (result : Reconciled GatewayReconciliationDecision) :
    Prop
  | kept (e : GatewayReconcileError) (same : ledger = g.ledger) (refused : result = .error e)
  | repeated (existing entry : ReservationReconcileState) (decision : GatewayReconciliationDecision)
      (found : g.ledger[a.reservationId]? = some existing)
      (repeats : Repeats a existing entry decision)
      (inserted : ledger = g.ledger.insert a.reservationId entry) (answered : result = .ok decision)
  | recorded (entry : ReservationReconcileState) (decision : GatewayReconciliationDecision)
      (passes : g.Passes a)
      (bound : ∃ r activationReceiptId, g.boundReservation a = .ok (r, activationReceiptId))
      (latestVersion : entry.latestVersion = a.receiptVersion)
      (latestAttestation : entry.latestAttestation = a)
      (shape : (entry.nonTerminal.isSome = true ∧ ∀ o, decision ≠ .settledFinal o) ∨
        ∃ o, entry.terminalSettlement = some o ∧ decision = .settledFinal o)
      (inserted : ledger = g.ledger.insert a.reservationId entry) (answered : result = .ok decision)
      (fresh : decision.isReplay = false)

lemma ledgerChange_of_reconciles (h : Reconciles g ctx a g' result) :
    LedgerChange g a g'.ledger result := by
  cases h with
  | refused e => exact .kept e rfl rfl
  | repeated existing entry decision found repeats =>
    exact .repeated existing entry decision found repeats rfl rfl
  | froze r activationReceiptId entry resources receipt passes bound uncertain frozen awaits =>
    exact .recorded entry _ passes ⟨r, activationReceiptId, bound⟩ awaits.latestVersion
      awaits.latestAttestation
      (.inl ⟨awaits.nonTerminal, fun _ h => by cases h⟩) rfl rfl rfl
  | projected r activationReceiptId entry audit passes bound finality awaits =>
    exact .recorded entry _ passes ⟨r, activationReceiptId, bound⟩ awaits.latestVersion
      awaits.latestAttestation
      (.inl ⟨awaits.nonTerminal, fun _ h => by cases h⟩) rfl rfl rfl
  | settled r activationReceiptId resources decision outcome passes bound certain finality
      finalized receipt =>
      exact .recorded _ _ passes ⟨r, activationReceiptId, bound⟩ rfl rfl (.inr ⟨outcome, rfl, rfl⟩)
        rfl rfl rfl
  | interrupted r activationReceiptId resources decision e passes bound certain finality
      finalized =>
      exact .kept e rfl rfl

def Answerable (g : Coordinator) : Prop :=
  ∀ (reservationId : ReservationId) entry, g.ledger[reservationId]? = some entry →
    entry.nonTerminal.isSome = true ∨ entry.terminalSettlement.isSome = true

lemma answerable_of_ledgerChange (hs : g.Answerable) (h : LedgerChange g a g'.ledger result) :
    g'.Answerable := by
  intro reservationId entry hentry
  cases h with
  | kept e same => exact hs reservationId entry (same ▸ hentry)
  | repeated existing entry' decision found repeats inserted =>
    rw [inserted, getElem?_insert_eq] at hentry
    split_ifs at hentry with hid
    · obtain rfl := Option.some.inj hentry
      rw [repeats.nonTerminal]
      rcases repeats.answer with ⟨hnone, -⟩ | ⟨settled, settled', -, hsome, -⟩
      · have hsome : existing.nonTerminal.isSome = true := by
          simpa [hnone] using hs a.reservationId existing found
        exact .inl hsome
      · exact .inr (by rw [hsome]; rfl)
    · exact hs reservationId entry hentry
  | recorded entry' decision passes bound latestVersion latestAttestation shape inserted answered
      fresh =>
      rw [inserted, getElem?_insert_eq] at hentry
      split_ifs at hentry with hid
      · obtain rfl := Option.some.inj hentry
        rcases shape with ⟨hsome, -⟩ | ⟨o, hsome, -⟩
        · exact .inl hsome
        · exact .inr (by rw [hsome]; rfl)
      · exact hs reservationId entry hentry

lemma latestVersion_lt_of_passes (hs : g.Answerable) (hpasses : g.Passes a)
    (hfound : g.ledger[a.reservationId]? = some existing) :
    existing.latestVersion < a.receiptVersion := by
  obtain ⟨hnone, hlater | ⟨-, hempty, -⟩⟩ := hpasses existing hfound
  · exact hlater
  · rcases hs a.reservationId existing hfound with hsome | hsome
    · simp [hempty] at hsome
    · simp [hnone] at hsome

lemma exists_latestVersion_of_ledgerChange (hs : g.Answerable)
    (h : LedgerChange g a g'.ledger result) {reservationId : ReservationId}
    (hfound : g.ledger[reservationId]? = some existing) :
    ∃ entry, g'.ledger[reservationId]? = some entry ∧
      existing.latestVersion ≤ entry.latestVersion := by
  cases h with
  | kept e same => exact ⟨existing, same ▸ hfound, le_rfl⟩
  | repeated existing' entry decision found repeats inserted =>
    rw [inserted, getElem?_insert_eq]
    by_cases hid : a.reservationId = reservationId
    · subst hid
      obtain rfl := Option.some.inj (found.symm.trans hfound)
      exact ⟨entry, if_pos rfl, repeats.latestVersion.ge⟩
    · exact ⟨existing, (if_neg hid).trans hfound, le_rfl⟩
  | recorded entry decision passes bound latestVersion latestAttestation shape inserted answered
      fresh =>
      rw [inserted, getElem?_insert_eq]
      by_cases hid : a.reservationId = reservationId
      · subst hid
        refine ⟨entry, if_pos rfl, ?_⟩
        rw [latestVersion]
        exact (latestVersion_lt_of_passes hs passes hfound).le
      · exact ⟨existing, (if_neg hid).trans hfound, le_rfl⟩

def Locked (g : Coordinator) (a : GatewayReconciliationAttestation)
    (outcome : GatewaySettlementOutcome) : Prop :=
  ∃ entry settled, g.ledger[a.reservationId]? = some entry ∧ entry.latestAttestation = a ∧
    entry.terminalSettlement = some settled ∧
    settled.finalizationReceipt = outcome.finalizationReceipt

lemma locked_of_ledgerChange (hs : g.Locked a₀ outcome)
    (h : LedgerChange g a g'.ledger result) : g'.Locked a₀ outcome := by
  obtain ⟨entry, settled, hfound, hattestation, hsettled, hreceipt⟩ := hs
  cases h with
  | kept e same => exact ⟨entry, settled, same ▸ hfound, hattestation, hsettled, hreceipt⟩
  | repeated existing entry' decision found repeats inserted =>
    by_cases hid : a.reservationId = a₀.reservationId
    · rw [hid] at found inserted
      obtain rfl := Option.some.inj (found.symm.trans hfound)
      rcases repeats.answer with ⟨hnone, -⟩ | ⟨before, settled', hbefore, hafter, -, hkept⟩
      · simp [hnone] at hsettled
      · obtain rfl := Option.some.inj (hbefore.symm.trans hsettled)
        refine ⟨entry', settled', ?_, repeats.latestAttestation.trans hattestation, hafter,
          hkept.trans hreceipt⟩
        rw [inserted, getElem?_insert_eq, if_pos rfl]
    · refine ⟨entry, settled, ?_, hattestation, hsettled, hreceipt⟩
      rw [inserted, getElem?_insert_ne hid, hfound]
  | recorded entry' decision passes bound latestVersion latestAttestation shape inserted answered
      fresh =>
      by_cases hid : a.reservationId = a₀.reservationId
      · have hnone := (passes entry (hid ▸ hfound)).1
        simp [hnone] at hsettled
      · refine ⟨entry, settled, ?_, hattestation, hsettled, hreceipt⟩
        rw [inserted, getElem?_insert_ne hid, hfound]

/-- A settled reservation accepts only its own attestation, and answers with its receipt. -/
lemma replayedFinal_of_locked (hs : g.Locked a₀ outcome)
    (hid : a.reservationId = a₀.reservationId)
    (h : LedgerChange g a g'.ledger (.ok decision)) :
    a = { a₀ with auditSignSeq := a.auditSignSeq } ∧ ∃ o, decision = .replayedFinal o ∧
        o.finalizationReceipt = outcome.finalizationReceipt := by
  obtain ⟨entry, settled, hfound, hattestation, hsettled, hreceipt⟩ := hs
  cases h with
  | kept e same refused => cases refused
  | repeated existing entry' decision' found repeats inserted answered =>
    rw [hid] at found
    obtain rfl := Option.some.inj (found.symm.trans hfound)
    obtain rfl := Except.ok.inj answered
    have hsame := repeats.same
    rw [hattestation, GatewayReconciliationAttestation.semanticFieldsEqual_iff] at hsame
    rcases repeats.answer with ⟨hnone, -⟩ | ⟨before, settled', hbefore, -, hdecision, hkept⟩
    · simp [hnone] at hsettled
    · obtain rfl := Option.some.inj (hbefore.symm.trans hsettled)
      exact ⟨hsame, settled', hdecision, hkept.trans hreceipt⟩
  | recorded entry' decision' passes bound latestVersion latestAttestation shape inserted answered
      fresh =>
      have hnone := (passes entry (hid ▸ hfound)).1
      simp [hnone] at hsettled

/-- Credit moves only in the settlement of a final attestation. -/
lemma settles_of_reconciles (hs : g.resources.Distinct) (h : Reconciles g ctx a g' result)
    (hmoves : g'.resources.accounts ≠ g.resources.accounts) :
    a.finality = .finalNonSupersedeable ∧ a.disposition ≠ .stillUncertainQuarantine ∧
      ∃ row receipt account, g.resources.Settles row receipt account g'.resources ∧
        row.reservationId = a.reservationId ∧ receipt.finalUsage = a.usage := by
  -- Both ways to settle finalize the reservation with the same request.
  have hfinalize : ∀ {activationReceiptId : ReceiptId} {resources : ResourceAuthority}
      {decision : FinalizeDecision}, resources.accounts ≠ g.resources.accounts →
      g.resources.finalizeReservation (settlementRequest a activationReceiptId) =
        .ok (resources, decision) →
      ∃ row receipt account, g.resources.Settles row receipt account resources ∧
        row.reservationId = a.reservationId ∧ receipt.finalUsage = a.usage := by
    intro activationReceiptId resources decision hchanged hfinalized
    obtain ⟨rfl | ⟨row, receipt, account, -, hrequest, hsettles⟩, -⟩ :=
      ResourceAuthority.settles_of_finalizeReservation hs hfinalized
    · exact absurd rfl hchanged
    · have hid : receipt.reservationId = a.reservationId :=
        congrArg FinalizeReservationRequest.reservationId hrequest
      exact ⟨row, receipt, account, hsettles, hsettles.binds.symm.trans hid,
        congrArg FinalizeReservationRequest.finalUsage hrequest⟩
  cases h with
  | refused => exact absurd rfl hmoves
  | repeated => exact absurd rfl hmoves
  | projected =>
    exact absurd rfl hmoves
  | froze r activationReceiptId entry resources receipt passes bound uncertain frozen =>
    rcases advances_of_frozenReceipt hs frozen with rfl | ⟨row, receiptId, atMs, -, hadvances⟩
    · exact absurd rfl hmoves
    · exact absurd hadvances.accounts hmoves
  | settled r activationReceiptId resources decision outcome passes bound certain finality
      finalized receipt => exact ⟨finality, certain, hfinalize hmoves finalized⟩
  | interrupted r activationReceiptId resources decision e passes bound certain finality
      finalized => exact ⟨finality, certain, hfinalize hmoves finalized⟩

lemma accounts_of_interleaved (hs : g.resources.Distinct)
    (hcall : (CoordinatorCall.resource call).interleaved = true) :
    (g.apply (.resource call)).1.resources.accounts = g.resources.accounts := by
  change (commit g.resources (g.resources.call call)).1.accounts = g.resources.accounts
  cases hresult : g.resources.call call with
  | error => rfl
  | ok result =>
    obtain ⟨t, answer⟩ := result
    cases call <;> simp only [CoordinatorCall.interleaved, Bool.false_eq_true] at hcall
    all_goals
      simp only [ResourceAuthority.call, map_eq_ok, Prod.exists, Prod.map_apply, id_eq,
        Prod.mk.injEq] at hresult
      obtain ⟨t, decision, hresult, rfl, -⟩ := hresult
    case consume =>
      obtain ⟨rfl | ⟨row, receipt, hrecords⟩, -⟩ :=
        ResourceAuthority.records_of_consume hs hresult
      · rfl
      · exact hrecords.accounts
    case quarantine =>
      obtain ⟨rfl | ⟨row, receiptId, atMs, -, hadvances⟩, -⟩ :=
        ResourceAuthority.advances_of_quarantine hs hresult
      · rfl
      · exact hadvances.accounts

lemma refunds_of_settles (hs : g.resources.Sound) (hpre : e.pre = g)
    (hinput : e.input = .reconcile ctx a) (hfinality : a.finality = .finalNonSupersedeable)
    (hcertain : a.disposition ≠ .stillUncertainQuarantine)
    (h : g.resources.Settles row receipt account (stateAfter e).resources)
    (hid : row.reservationId = a.reservationId) (husage : receipt.finalUsage = a.usage) :
    Refunds e := by
  subst hpre
  have hcredit : (account.availableCredit.saturatingAdd receipt.refundCredit).val =
      account.availableCredit.val + receipt.refundCredit.val :=
    Word.saturatingAdd_val (h.fits.trans (by norm_num))
  refine ⟨ctx, a, row, account, _, hinput, hfinality, hcertain, h.stored, hid, h.known, h.pays,
    h.accounts, ?_, husage ▸ h.bounded, ?_⟩
  · rw [hcredit, h.refund, Word.saturatingSub_val, husage]
  · intro c hc
    obtain ⟨hstored, hreservation⟩ := mem_filter.mp hc
    obtain ⟨r, hr, hrId, -, hbelow⟩ := hs.reports.stored c hstored
    obtain rfl := hs.distinct.reservations.eq hr h.stored
      (hrId.trans ((of_decide_eq_true hreservation).trans hid.symm))
    exact hbelow.trans (husage ▸ h.monotone)

lemma holds_of_advances {s t : ResourceAuthority} (hs : s.Distinct)
    (hactive : row.state = .ok .active) (h : s.Advances row
      { row with quarantineReceiptId := some receiptId, quarantinedAtMs := some atMs } t)
    {r} (hr : r ∈ s.reservations) : ∃ r' ∈ t.reservations, r'.reservationId = r.reservationId ∧
      (r.state ≠ .ok .finalized → r'.state ≠ .ok .finalized) ∧
      (r.state = .ok .quarantined → r'.state = .ok .quarantined) := by
  rw [h.reservations]
  by_cases hid : r.reservationId = row.reservationId
  · obtain rfl := hs.reservations.eq hr h.stored hid
    refine ⟨_, mem_replaceRow_self hr rfl, rfl, fun _ hfinal => ?_, fun hfrozen => ?_⟩
    · have hnone := (ReservationRow.state_eq_finalized.mp hfinal).2.1
      cases hnone
    · rw [hactive] at hfrozen
      cases hfrozen
  · exact ⟨r, mem_replaceRow_of_ne hr hid, rfl, id, id⟩

lemma keepsHolds_of_reconciles (hs : g.resources.Distinct)
    (hpre : e.pre = g) (h : Reconciles g ctx a (stateAfter e) result)
    (hopen : a.finality = .provisional ∨ a.disposition = .stillUncertainQuarantine) :
    KeepsHolds e := by
  subst hpre
  have hsame : (stateAfter e).resources = e.pre.resources → KeepsHolds e := by
    intro hresources
    unfold KeepsHolds
    rw [hresources]
    exact ⟨rfl, fun r hr => ⟨r, hr, rfl, id, id⟩⟩
  generalize hafter : stateAfter e = g' at h
  cases h with
  | refused => exact hsame (by rw [hafter])
  | repeated => exact hsame (by rw [hafter])
  | projected =>
    exact hsame (by rw [hafter])
  | froze r activationReceiptId entry resources receipt passes bound uncertain frozen =>
    rcases advances_of_frozenReceipt hs frozen with
      rfl | ⟨row, receiptId, atMs, hactive, hadvances⟩
    · exact hsame (by rw [hafter])
    · unfold KeepsHolds
      rw [hafter]
      exact ⟨hadvances.accounts, fun r hr => holds_of_advances hs hactive hadvances hr⟩
  | settled r activationReceiptId resources decision outcome passes bound certain finality
      finalized receipt =>
      rcases hopen with hopen | hopen
      · rw [finality] at hopen
        cases hopen
      · exact absurd hopen certain
  | interrupted r activationReceiptId resources decision e passes bound certain finality
      finalized =>
      rcases hopen with hopen | hopen
      · rw [finality] at hopen
        cases hopen
      · exact absurd hopen certain

/-! ## Every sequence of calls -/

lemma accepted?_eq_some (h : accepted? reservationId e = some v) :
    ∃ ctx a decision, e.input = .reconcile ctx a ∧ e.output = .reconcile (.ok decision) ∧
      a.reservationId = reservationId ∧ decision.isReplay = false ∧ v = a.receiptVersion := by
  unfold accepted? at h
  split at h
  · next ctx a decision hinput houtput =>
    split_ifs at h with hfresh
    exact ⟨ctx, a, decision, hinput, houtput, hfresh.1, hfresh.2, (Option.some.inj h).symm⟩
  · cases h

lemma recorded_of_fresh
    (h : LedgerChange g a g'.ledger (.ok decision)) (hfresh : decision.isReplay = false) :
    g.Passes a ∧ ∃ entry, g'.ledger[a.reservationId]? = some entry ∧
      entry.latestVersion = a.receiptVersion := by
  cases h with
  | kept e same refused => cases refused
  | repeated existing entry decision' found repeats inserted answered =>
    obtain rfl := Except.ok.inj answered
    simp [repeats.replay] at hfresh
  | recorded entry decision' passes bound latestVersion latestAttestation shape inserted answered
      _ =>
      refine ⟨passes, entry, ?_, latestVersion⟩
      rw [inserted, getElem?_insert_eq, if_pos rfl]

lemma locked_of_settledFinal
    (h : LedgerChange g a g'.ledger (.ok (.settledFinal outcome))) : g'.Locked a outcome := by
  cases h with
  | kept e same refused => cases refused
  | repeated existing entry decision found repeats inserted answered =>
    obtain rfl := Except.ok.inj answered
    cases repeats.replay
  | recorded entry decision passes bound latestVersion latestAttestation shape inserted answered
      fresh =>
      obtain rfl := Except.ok.inj answered
      rcases shape with ⟨-, hnot⟩ | ⟨o, hsome, hdecision⟩
      · exact absurd rfl (hnot outcome)
      · cases hdecision
        refine ⟨entry, outcome, ?_, latestAttestation, hsome, rfl⟩
        rw [inserted, getElem?_insert_eq, if_pos rfl]

structure Chronicle (h : List CoordinatorEvent) (g : Coordinator) : Prop where
  sound : g.resources.Sound
  answerable : g.Answerable
  accepted : ∀ reservationId, ∀ v ∈ acceptedIn h reservationId,
    ∃ entry, g.ledger[reservationId]? = some entry ∧ v ≤ entry.latestVersion
  locked : ∀ e ∈ h, ∀ ctx a outcome, e.input = .reconcile ctx a →
    e.output = .reconcile (.ok (.settledFinal outcome)) → g.Locked a outcome
  moved : ∀ e ∈ h, ∀ reservationId, MovesCreditOf reservationId e →
    ∃ row ∈ g.resources.reservations, row.reservationId = reservationId ∧ row.isFinalized = true

lemma finalized_of_movesCreditOf (hs : e.pre.resources.Sound)
    (h : MovesCreditOf reservationId e) :
    (∀ row ∈ e.pre.resources.reservations, row.reservationId = reservationId →
      row.isFinalized = false) ∧
    ∃ row ∈ (stateAfter e).resources.reservations, row.reservationId = reservationId ∧
      row.isFinalized = true := by
  obtain ⟨⟨ctx, a, hinput, rfl⟩, hmoves⟩ := h
  have hreconciles := e.pre.reconciles ctx a
  have hafter : stateAfter e = (e.pre.verifyAndApplyGatewayReconciliation ctx a).1 := by
    rw [stateAfter, hinput]
    rfl
  rw [hafter] at hmoves ⊢
  obtain ⟨-, -, row, receipt, account, hsettles, hid, -⟩ :=
    settles_of_reconciles hs.distinct hreconciles hmoves
  refine ⟨?_, row.settled receipt, ?_, hid, ReservationRow.isFinalized_settled hsettles.state⟩
  · intro r hr hrId
    obtain rfl := hs.distinct.reservations.eq hr hsettles.stored (hrId.trans hid.symm)
    exact ReservationRow.isFinalized_of_settleable hsettles.state
  · rw [hsettles.reservations]
    exact mem_replaceRow_self hsettles.stored rfl

lemma ledger_of_apply (g : Coordinator) (call : CoordinatorCall) :
    (∃ ctx a result, call = .reconcile ctx a ∧ (g.apply call).2 = .reconcile result ∧
      LedgerChange g a (g.apply call).1.ledger result) ∨
    ((∀ ctx a, call ≠ .reconcile ctx a) ∧ (g.apply call).1.ledger = g.ledger) := by
  cases call with
  | reconcile ctx a =>
    exact .inl ⟨ctx, a, _, rfl, rfl, ledgerChange_of_reconciles (g.reconciles ctx a)⟩
  | resource => exact .inr ⟨(fun _ _ h => nomatch h), rfl⟩

lemma chronicle_new {resources} (hs : resources.Sound) : Chronicle [] ⟨∅, resources⟩ where
  sound := hs
  answerable _ _ h := by simp at h
  accepted _ _ h := absurd h not_mem_nil
  locked _ h := absurd h not_mem_nil
  moved _ h := absurd h not_mem_nil

variable {h : List CoordinatorEvent} {call : CoordinatorCall} {answer : CoordinatorAnswer}

lemma answerable_of_apply (hs : g.Answerable) (happly : g.apply call = (g', answer)) :
    g'.Answerable := by
  have hledger := g.ledger_of_apply call
  rw [happly] at hledger
  rcases hledger with ⟨ctx, a, result, -, -, hchange⟩ | ⟨-, hsame⟩
  · exact answerable_of_ledgerChange hs hchange
  · intro reservationId entry hentry
    exact hs reservationId entry (hsame ▸ hentry)

lemma exists_latestVersion_of_apply (hs : g.Answerable) (happly : g.apply call = (g', answer))
    {reservationId : ReservationId} (hfound : g.ledger[reservationId]? = some existing) :
    ∃ entry, g'.ledger[reservationId]? = some entry ∧
      existing.latestVersion ≤ entry.latestVersion := by
  have hledger := g.ledger_of_apply call
  rw [happly] at hledger
  rcases hledger with ⟨ctx, a, result, -, -, hchange⟩ | ⟨-, hsame⟩
  · exact exists_latestVersion_of_ledgerChange hs hchange hfound
  · exact ⟨existing, hsame ▸ hfound, le_rfl⟩

lemma locked_of_apply (hs : g.Locked a outcome)
    (happly : g.apply call = (g', answer)) : g'.Locked a outcome := by
  have hledger := g.ledger_of_apply call
  rw [happly] at hledger
  rcases hledger with ⟨ctx, a', result, -, -, hchange⟩ | ⟨-, hsame⟩
  · exact locked_of_ledgerChange hs hchange
  · obtain ⟨entry, settled, hfound, hrest⟩ := hs
    exact ⟨entry, settled, hsame ▸ hfound, hrest⟩

lemma ledgerChange_of_apply
    (happly : g.apply (.reconcile ctx a) = (g', .reconcile result)) :
    LedgerChange g a g'.ledger result := by
  have hchange := ledgerChange_of_reconciles (g.reconciles ctx a)
  obtain ⟨rfl, hanswer⟩ := Prod.mk.inj happly
  cases hanswer
  exact hchange

lemma Chronicle.snoc (hc : Chronicle h g) (happly : g.apply call = (g', answer)) :
    Chronicle (h ++ [⟨g, call, answer⟩]) g' := by
  have hchange := change_of_apply hc.sound.distinct call
  rw [happly] at hchange
  have hafter : stateAfter ⟨g, call, answer⟩ = g' := congrArg Prod.fst happly
  refine ⟨hc.sound.change hchange, answerable_of_apply hc.answerable happly, ?_, ?_, ?_⟩
  · intro reservationId v hv
    rw [acceptedIn, filterMap_append, mem_append] at hv
    rcases hv with hv | hv
    · obtain ⟨existing, hfound, hle⟩ := hc.accepted reservationId v hv
      obtain ⟨entry, hentry, hrise⟩ := exists_latestVersion_of_apply hc.answerable happly hfound
      exact ⟨entry, hentry, hle.trans hrise⟩
    · simp only [filterMap_cons, filterMap_nil] at hv
      split at hv
      · exact absurd hv not_mem_nil
      · next v' haccepted =>
        obtain rfl := mem_singleton.mp hv
        obtain ⟨ctx, a, decision, rfl, rfl, rfl, hfresh, rfl⟩ := accepted?_eq_some haccepted
        obtain ⟨-, entry, hentry, hversion⟩ :=
          recorded_of_fresh (ledgerChange_of_apply happly) hfresh
        exact ⟨entry, hentry, hversion.ge⟩
  · intro e he ctx a outcome hinput houtput
    rw [mem_append, mem_singleton] at he
    rcases he with he | rfl
    · exact locked_of_apply (hc.locked e he ctx a outcome hinput houtput) happly
    · cases hinput
      cases houtput
      exact locked_of_settledFinal (ledgerChange_of_apply happly)
  · intro e he reservationId hmoves
    rw [mem_append, mem_singleton] at he
    rcases he with he | rfl
    · obtain ⟨row, hrow, hid, hfinal⟩ := hc.moved e he reservationId hmoves
      obtain ⟨row', hrow', hcontinues⟩ :=
        ResourceAuthority.exists_continuing hc.sound.distinct hchange hrow
      obtain rfl := hcontinues.finalized hfinal
      exact ⟨row', hrow', hid, hfinal⟩
    · have hfinalized := (finalized_of_movesCreditOf hc.sound hmoves).2
      rwa [hafter] at hfinalized

/-- The ledger of the coordinator tells what the run has accepted for each reservation. -/
lemma chronicle_of_run (hs : Chronicle [] g₀) (hrun : Run step g₀ h g) : Chronicle h g := by
  induction hrun with
  | refl => exact hs
  | snoc _ hstep ih => exact ih.snoc (Except.ok.inj hstep)

lemma lt_of_accepted (hc : Chronicle h g) (happly : g.apply call = (g', answer))
    (hv : v ∈ acceptedIn h reservationId)
    (hw : accepted? reservationId ⟨g, call, answer⟩ = some w) : v < w := by
  obtain ⟨ctx, a, decision, rfl, rfl, rfl, hfresh, rfl⟩ := accepted?_eq_some hw
  obtain ⟨hpasses, -⟩ := recorded_of_fresh (ledgerChange_of_apply happly) hfresh
  obtain ⟨existing, hfound, hle⟩ := hc.accepted a.reservationId v hv
  exact hle.trans_lt (latestVersion_lt_of_passes hc.answerable hpasses hfound)

lemma refunds_of_apply (hs : g.resources.Sound) (hcall : call.interleaved = true)
    (happly : g.apply call = (g', answer)) (hmoves : g'.resources.accounts ≠ g.resources.accounts) :
    Refunds ⟨g, call, answer⟩ := by
  have hafter : stateAfter ⟨g, call, answer⟩ = g' := congrArg Prod.fst happly
  cases call with
  | resource =>
    have hsame := accounts_of_interleaved (g := g) hs.distinct hcall
    rw [happly] at hsame
    exact absurd hsame hmoves
  | reconcile ctx a =>
    have hreconciles := g.reconciles ctx a
    have hstate : (g.verifyAndApplyGatewayReconciliation ctx a).1 = g' := congrArg Prod.fst happly
    rw [hstate] at hreconciles
    obtain ⟨hfinality, hcertain, row, receipt, account, hsettles, hid, husage⟩ :=
      settles_of_reconciles hs.distinct hreconciles hmoves
    rw [← hafter] at hsettles
    exact refunds_of_settles hs rfl rfl hfinality hcertain hsettles hid husage

/-- Over every sequence of attestations, usage reports and freezes: accepted versions rise; credit
moves only by the refund of a final attestation, and at most once for a reservation; provisional and
uncertain attestations keep every hold; a settlement answers everything accepted after it. -/
theorem gateway_settles_once {h₀ : List ResourceEvent} {resources : ResourceAuthority}
    (hresources : Run ResourceAuthority.step .new h₀ resources)
    (hrun : Run step ⟨∅, resources⟩ h g) (hcalls : ∀ e ∈ h, e.input.interleaved = true) :
    (∀ reservationId, (acceptedIn h reservationId).Pairwise (· < ·)) ∧
    (∀ e ∈ h, (stateAfter e).resources.accounts ≠ e.pre.resources.accounts → Refunds e) ∧
    (h.Pairwise fun e e' => ∀ reservationId,
      MovesCreditOf reservationId e → ¬ MovesCreditOf reservationId e') ∧
    (∀ e ∈ h, ∀ ctx a, e.input = .reconcile ctx a →
      a.finality = .provisional ∨ a.disposition = .stillUncertainQuarantine → KeepsHolds e) ∧
    h.Pairwise fun e e' => ∀ ctx a outcome ctx' a' decision, e.input = .reconcile ctx a →
      e.output = .reconcile (.ok (.settledFinal outcome)) → e'.input = .reconcile ctx' a' →
      e'.output = .reconcile (.ok decision) → a'.reservationId = a.reservationId →
      a' = { a with auditSignSeq := a'.auditSignSeq } ∧ ∃ o, decision = .replayedFinal o ∧
          o.finalizationReceipt = outcome.finalizationReceipt := by
  have hnew := chronicle_new (ResourceAuthority.sound_new.run hresources)
  induction hrun with
  | refl => simp [acceptedIn]
  | @snoc h g g' call answer hprefix hstep ih =>
    have hc := chronicle_of_run hnew hprefix
    have happly : g.apply call = (g', answer) := Except.ok.inj hstep
    have hafter : stateAfter ⟨g, call, answer⟩ = g' := congrArg Prod.fst happly
    obtain ⟨hrising, hrefunds, honce, hholds, hlocked⟩ :=
      ih fun e he => hcalls e (mem_append_left _ he)
    have hcall : call.interleaved = true :=
      hcalls ⟨g, call, answer⟩ (mem_append_right _ (mem_singleton_self _))
    refine ⟨?_, ?_, ?_, ?_, ?_⟩
    · intro reservationId
      rw [acceptedIn, filterMap_append, pairwise_append]
      refine ⟨hrising reservationId, ?_, ?_⟩
      · simp only [filterMap_cons, filterMap_nil]
        split
        · exact .nil
        · exact pairwise_singleton _ _
      · intro v hv w hw
        obtain ⟨e, he, haccepted⟩ := mem_filterMap.mp hw
        obtain rfl := mem_singleton.mp he
        exact lt_of_accepted hc happly hv haccepted
    · intro e he hmoves
      rw [mem_append, mem_singleton] at he
      rcases he with he | rfl
      · exact hrefunds e he hmoves
      · rw [hafter] at hmoves
        exact refunds_of_apply hc.sound hcall happly hmoves
    · rw [pairwise_append]
      refine ⟨honce, pairwise_singleton _ _, ?_⟩
      intro e he e' he' reservationId hmoves hmoves'
      obtain rfl := mem_singleton.mp he'
      obtain ⟨row, hrow, hid, hfinal⟩ := hc.moved e he reservationId hmoves
      have hopen := (finalized_of_movesCreditOf hc.sound hmoves').1 row hrow hid
      simp [hopen] at hfinal
    · intro e he ctx a hinput hopen
      rw [mem_append, mem_singleton] at he
      rcases he with he | rfl
      · exact hholds e he ctx a hinput hopen
      · obtain rfl : call = .reconcile ctx a := hinput
        exact keepsHolds_of_reconciles hc.sound.distinct rfl (g.reconciles ctx a) hopen
    · rw [pairwise_append]
      refine ⟨hlocked, pairwise_singleton _ _, ?_⟩
      intro e he e' he' ctx a outcome ctx' a' decision hinput houtput hinput' houtput' hid
      obtain rfl := mem_singleton.mp he'
      obtain rfl : call = .reconcile ctx' a' := hinput'
      obtain rfl : answer = .reconcile (.ok decision) := houtput'
      exact replayedFinal_of_locked (hc.locked e he ctx a outcome hinput houtput) hid
        (ledgerChange_of_apply happly)

namespace Sample

open ResourceAuthority.Sample

def attestation : GatewayReconciliationAttestation where
  reconcileId := 1
  gatewayId := 2
  gatewayPrincipal := 3
  gatewayControlDomain := 4
  keyId := 5
  custodyRotationEpoch := 1
  reservationId := reservationId
  operationId := 1
  fencingToken := quote.driverFencingToken
  disposition := .effectClosed 1 25
  receiptVersion := 1
  finality := .finalNonSupersedeable
  issuedAtMs := 15
  auditSignSeq := 1
  signature := 0

/-- Custody and identity accept the signature, and the plan converges as it is given. -/
def context (plan : Except TaskStoreError ResourceConvergeDecision) :
    ApplyGatewayReconciliationContext where
  expectedGatewayId := 2
  verifyActiveEpochSignature _ _ _ _ _ := .ok ⟨2, 3, 4⟩
  verifySemanticAuthoritySignature _ _ _ _ _ _ := .ok .initial
  convergeResourceCommitPlan := some fun _ _ => plan
  verifiedAtMs := 16

def converging : ApplyGatewayReconciliationContext := context (.ok (.finalized 1))

def failing : ApplyGatewayReconciliationContext := context (.error (.refused "storage"))

def refunded (s : ResourceAuthority) : Bool := s.accounts.any fun a => a.availableCredit = 75

def settles (s : ResourceAuthority) : Bool :=
  match (⟨∅, s⟩ : Coordinator).verifyAndApplyGatewayReconciliation converging attestation with
  | (g, .ok (.settledFinal _)) => refunded g.resources
  | _ => false

/-- The settlement is interrupted, and the same attestation is then refused. -/
def strands (s : ResourceAuthority) : Bool :=
  (s.finalizeReceipt reservationId).isNone &&
  match (⟨∅, s⟩ : Coordinator).verifyAndApplyGatewayReconciliation failing attestation with
  | (g, .error (.task _)) =>
    (g.resources.finalizeReceipt reservationId).isSome &&
      match g.verifyAndApplyGatewayReconciliation converging attestation with
      | (_, .error (.reservationAlreadyFinalizedOutOfBand _)) => true
      | _ => false
  | _ => false

lemma exists_open : ∃ h s, Run ResourceAuthority.step .new h s ∧
    s.accounts.all (fun a => a.availableCredit = 60) = true ∧ settles s = true ∧
      strands s = true := by
  have hcheck : runCheck ResourceAuthority.step .new openCalls (fun _ s =>
      s.accounts.all (fun a => a.availableCredit = 60) && settles s && strands s) = true := by
    decide +kernel
  obtain ⟨h, s, hrun, -, hall⟩ := exists_run_of_runCheck hcheck
  rw [Bool.and_eq_true, Bool.and_eq_true] at hall
  exact ⟨h, s, hrun, hall.1.1, hall.1.2, hall.2⟩

end Sample

/-- The first of two reconciliations with one attestation refunds, and the second moves nothing. -/
theorem gateway_settles_once_refund :
    ∃ h₀ resources e e' g, Run ResourceAuthority.step .new h₀ resources ∧
      Run step ⟨∅, resources⟩ [e, e'] g ∧
      e.input = .reconcile Sample.converging Sample.attestation ∧ e'.input = e.input ∧
      (stateAfter e).resources.accounts ≠ e.pre.resources.accounts ∧ Refunds e ∧
      (stateAfter e').resources.accounts = e'.pre.resources.accounts := by
  obtain ⟨h₀, s, hrun, hheld, hsettles, -⟩ := Sample.exists_open
  have hfirst := Run.single (f := step) (s := ⟨∅, s⟩)
    (a := .reconcile Sample.converging Sample.attestation) rfl
  have hboth := hfirst.snoc (a := .reconcile Sample.converging Sample.attestation) rfl
  obtain ⟨-, hrefunds, honce, -⟩ :=
    gateway_settles_once hrun hboth (by simp [CoordinatorCall.interleaved])
  unfold Sample.settles at hsettles
  split at hsettles
  · next g outcome happly =>
    have hmoves : g.resources.accounts ≠ s.accounts := by
      intro hsame
      obtain ⟨a, ha, hrefunded⟩ := any_eq_true.mp hsettles
      rw [hsame] at ha
      have hbefore := of_decide_eq_true (all_eq_true.mp hheld a ha)
      rw [of_decide_eq_true hrefunded] at hbefore
      exact absurd hbefore (by decide)
    have hchanged (answer : CoordinatorAnswer) : (stateAfter ⟨⟨∅, s⟩,
        .reconcile Sample.converging Sample.attestation, answer⟩).resources.accounts ≠
          s.accounts := by
      intro hsame
      rw [stateAfter] at hsame
      exact hmoves ((congrArg (·.1.resources.accounts) happly).symm.trans hsame)
    have hpair := (pairwise_append.mp honce).2.2 _ (mem_singleton_self _) _ (mem_singleton_self _)
    refine ⟨h₀, s, _, _, _, hrun, hboth, rfl, rfl, hchanged _,
      hrefunds _ (by simp) (hchanged _), ?_⟩
    by_contra hmoved
    exact hpair _ ⟨⟨_, _, rfl, rfl⟩, hchanged _⟩ ⟨⟨_, _, rfl, rfl⟩, hmoved⟩
  · cases hsettles

end Coordinator

end Nlos.Gateway
