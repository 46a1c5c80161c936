import Nlos.Gateway.Reconcile
import Nlos.Resource.Conservation

/-!
# Calls on the coordinator

What an attestation can do: it is refused, repeats a recorded answer, freezes its reservation,
leaves a projection, settles, or settles the resource side alone when the plan does not converge.
-/

namespace Nlos.Gateway

open Lib Capability Resource ResourceAuthority

variable {r : ReservationRecord} {activationReceiptId : ReceiptId}

lemma GatewayReconciliationAttestation.semanticFieldsEqual_iff
    {a b : GatewayReconciliationAttestation} :
    a.SemanticFieldsEqual b ↔ b = { a with auditSignSeq := b.auditSignSeq } := by
  cases a
  cases b
  simp only [SemanticFieldsEqual, GatewayReconciliationAttestation.mk.injEq, true_and]
  grind

def GatewayReconciliationDecision.isReplay : GatewayReconciliationDecision → Bool
  | .replayedProvisional _ | .replayedQuarantined _ _ | .replayedFinal _ => true
  | .projectedProvisional _ | .frozenQuarantined _ _ | .settledFinal _ => false

namespace Coordinator

variable {g g' : Coordinator} {ctx : ApplyGatewayReconciliationContext}
  {a : GatewayReconciliationAttestation}

/-- Nothing recorded for the reservation answers the attestation or forbids it. -/
def Passes (g : Coordinator) (a : GatewayReconciliationAttestation) : Prop :=
  ∀ existing, g.ledger[a.reservationId]? = some existing →
    existing.terminalSettlement = none ∧
      (existing.latestVersion < a.receiptVersion ∨
        (a.receiptVersion = existing.latestVersion ∧ existing.nonTerminal = none ∧
          existing.latestAttestation.SemanticFieldsEqual a))

/-- A recorded entry answers the attestation; only the convergence of a settlement may change. -/
structure Repeats (a : GatewayReconciliationAttestation)
    (existing entry : ReservationReconcileState)
    (decision : GatewayReconciliationDecision) : Prop where
  version : a.receiptVersion = existing.latestVersion
  same : existing.latestAttestation.SemanticFieldsEqual a
  latestVersion : entry.latestVersion = existing.latestVersion
  latestAttestation : entry.latestAttestation = existing.latestAttestation
  nonTerminal : entry.nonTerminal = existing.nonTerminal
  replay : decision.isReplay = true
  answer : (existing.terminalSettlement = none ∧ entry.terminalSettlement = none) ∨
    ∃ settled settled', existing.terminalSettlement = some settled ∧
      entry.terminalSettlement = some settled' ∧ decision = .replayedFinal settled' ∧
      settled'.finalizationReceipt = settled.finalizationReceipt

lemma supersession_eq_none : g.supersession ctx a = .ok none ↔ g.Passes a := by
  unfold supersession Passes
  cases g.ledger[a.reservationId]? with
  | none => simp [pure, Except.pure]
  | some existing =>
    simp only [Option.some.injEq, forall_eq']
    cases hterminal : existing.terminalSettlement with
    | some =>
      split_ifs with hversion
      · simp [bind_eq_ok, map_eq_ok]
      · simp
    | none =>
      split_ifs with hversion
      · simp only [bind_eq_ok, refuseIf_eq_ok, not_not, hversion, lt_self_iff_false, true_and,
          false_or]
        cases existing.nonTerminal with
        | none => simp [pure_eq_ok, exists_const]
        | some entry => cases entry <;> simp [pure_eq_ok]
      · simp only [bind_eq_ok, refuseIf_eq_ok, pure_eq_ok, hversion, false_and, or_false,
          true_and, not_lt, and_true, exists_const]
        exact ⟨fun h => lt_of_le_of_ne h (Ne.symm hversion), le_of_lt⟩

lemma exists_repeats_of_supersession
    (h : g.supersession ctx a = .ok (some (entry, decision))) :
    ∃ existing, g.ledger[a.reservationId]? = some existing ∧ Repeats a existing entry decision := by
  unfold supersession at h
  cases hfound : g.ledger[a.reservationId]? with
  | none => simp [hfound, pure, Except.pure] at h
  | some existing =>
    refine ⟨existing, rfl, ?_⟩
    simp only [hfound] at h
    cases hterminal : existing.terminalSettlement with
    | some settled =>
      simp only [hterminal] at h
      split_ifs at h with hversion
      simp only [bind_eq_ok, refuseIf_eq_ok, not_not, map_eq_ok, replayFinal, pure_eq_ok,
        Option.some.injEq] at h
      obtain ⟨-, hsame, -, ⟨-, -, converged, -, rfl⟩, hentry⟩ := h
      obtain ⟨rfl, rfl⟩ := Prod.mk.inj hentry
      exact ⟨hversion, hsame, rfl, rfl, rfl, rfl, .inr ⟨settled, _, hterminal, rfl, rfl, rfl⟩⟩
    | none =>
      simp only [hterminal] at h
      split_ifs at h with hversion
      · simp only [bind_eq_ok, refuseIf_eq_ok, not_not] at h
        obtain ⟨-, hsame, h⟩ := h
        cases hentry : existing.nonTerminal with
        | none => simp [hentry, pure_eq_ok] at h
        | some kind =>
          cases kind <;>
          · simp only [hentry, pure_eq_ok, Option.some.injEq, Prod.mk.injEq] at h
            obtain ⟨rfl, rfl⟩ := h
            exact ⟨hversion, hsame, rfl, rfl, rfl, rfl, .inl ⟨hterminal, hterminal⟩⟩
      · simp only [bind_eq_ok, pure_eq_ok] at h
        obtain ⟨-, -, h⟩ := h
        cases h

/-! ## What an attestation can do -/

structure Awaits (a : GatewayReconciliationAttestation) (entry : ReservationReconcileState) :
    Prop where
  latestVersion : entry.latestVersion = a.receiptVersion
  latestAttestation : entry.latestAttestation = a
  nonTerminal : entry.nonTerminal.isSome = true
  terminalSettlement : entry.terminalSettlement = none

inductive Reconciles (g : Coordinator) (ctx : ApplyGatewayReconciliationContext)
    (a : GatewayReconciliationAttestation) :
    Coordinator → Reconciled GatewayReconciliationDecision → Prop
  | refused (e : GatewayReconcileError) : Reconciles g ctx a g (.error e)
  | repeated (existing entry : ReservationReconcileState) (decision : GatewayReconciliationDecision)
      (found : g.ledger[a.reservationId]? = some existing)
      (repeats : Repeats a existing entry decision) :
      Reconciles g ctx a { g with ledger := g.ledger.insert a.reservationId entry } (.ok decision)
  | froze (r : ReservationRecord) (activationReceiptId : ReceiptId)
      (entry : ReservationReconcileState) (resources : ResourceAuthority)
      (receipt : QuarantineReceipt) (passes : g.Passes a)
      (bound : g.boundReservation a = .ok (r, activationReceiptId))
      (uncertain : a.disposition = .stillUncertainQuarantine)
      (frozen : g.frozenReceipt a r activationReceiptId = .ok (resources, receipt))
      (awaits : Awaits a entry) :
      Reconciles g ctx a ⟨g.ledger.insert a.reservationId entry, resources⟩
        (.ok (.frozenQuarantined receipt a.receiptVersion))
  | projected (r : ReservationRecord) (activationReceiptId : ReceiptId)
      (entry : ReservationReconcileState) (audit : ProjectedReconciliationAudit)
      (passes : g.Passes a) (bound : g.boundReservation a = .ok (r, activationReceiptId))
      (finality : a.finality = .provisional) (awaits : Awaits a entry) :
      Reconciles g ctx a { g with ledger := g.ledger.insert a.reservationId entry }
        (.ok (.projectedProvisional audit))
  | settled (r : ReservationRecord) (activationReceiptId : ReceiptId)
      (resources : ResourceAuthority) (decision : FinalizeDecision)
      (outcome : GatewaySettlementOutcome) (passes : g.Passes a)
      (bound : g.boundReservation a = .ok (r, activationReceiptId))
      (certain : a.disposition ≠ .stillUncertainQuarantine)
      (finality : a.finality = .finalNonSupersedeable)
      (finalized : g.resources.finalizeReservation (settlementRequest a activationReceiptId) =
        .ok (resources, decision)) (receipt : outcome.finalizationReceipt = decision.receipt) :
      Reconciles g ctx a (g.lock a resources outcome) (.ok (.settledFinal outcome))
  | interrupted (r : ReservationRecord) (activationReceiptId : ReceiptId)
      (resources : ResourceAuthority) (decision : FinalizeDecision) (e : GatewayReconcileError)
      (passes : g.Passes a) (bound : g.boundReservation a = .ok (r, activationReceiptId))
      (certain : a.disposition ≠ .stillUncertainQuarantine)
      (finality : a.finality = .finalNonSupersedeable)
      (finalized : g.resources.finalizeReservation (settlementRequest a activationReceiptId) =
        .ok (resources, decision)) : Reconciles g ctx a { g with resources } (.error e)

lemma reconciles_of_freeze
    (hpasses : g.Passes a) (hbound : g.boundReservation a = .ok (r, activationReceiptId))
    (huncertain : a.disposition = .stillUncertainQuarantine) :
    Reconciles g ctx a (commit g (g.freeze a r activationReceiptId)).1
      (commit g (g.freeze a r activationReceiptId)).2 := by
  cases hfreeze : g.freeze a r activationReceiptId with
  | error e => exact .refused e
  | ok =>
    simp only [freeze, bind_eq_ok, pure_eq_ok] at hfreeze
    obtain ⟨⟨resources, receipt⟩, hfrozen, rfl⟩ := hfreeze
    exact .froze r activationReceiptId _ resources receipt hpasses hbound huncertain hfrozen
      ⟨rfl, rfl, rfl, rfl⟩

lemma reconciles_of_settleFinal
    (hpasses : g.Passes a) (hbound : g.boundReservation a = .ok (r, activationReceiptId))
    (hcertain : a.disposition ≠ .stillUncertainQuarantine)
    (hfinality : a.finality = .finalNonSupersedeable) :
    Reconciles g ctx a (g.settleFinal ctx a activationReceiptId).1
      (g.settleFinal ctx a activationReceiptId).2 := by
  unfold settleFinal
  cases hfinalized :
      g.resources.finalizeReservation (settlementRequest a activationReceiptId) with
  | error e => exact .refused _
  | ok result =>
    obtain ⟨resources, decision⟩ := result
    cases hconverge : ctx.converge resources with
    | error e =>
      simp only [hconverge]
      exact .interrupted r activationReceiptId resources decision e hpasses hbound hcertain
        hfinality hfinalized
    | ok =>
      simp only [hconverge]
      exact .settled r activationReceiptId resources decision _ hpasses hbound hcertain
        hfinality hfinalized rfl

lemma reconciles_of_applyOutcome
    (hpasses : g.Passes a) (hbound : g.boundReservation a = .ok (r, activationReceiptId)) :
    Reconciles g ctx a (g.applyOutcome ctx a r activationReceiptId).1
      (g.applyOutcome ctx a r activationReceiptId).2 := by
  unfold applyOutcome
  split
  · next huncertain => exact reconciles_of_freeze hpasses hbound huncertain
  · next hcertain =>
    cases checkOutcome a r with
    | error e => exact .refused e
    | ok =>
      cases hfinality : a.finality with
      | provisional => exact .projected r _ _ _ hpasses hbound hfinality ⟨rfl, rfl, rfl, rfl⟩
      | finalNonSupersedeable =>
        cases ctx.checkTimestamp with
        | error e => exact .refused e
        | ok => exact reconciles_of_settleFinal hpasses hbound hcertain hfinality

/-- Every call on the coordinator does one of these. -/
lemma reconciles (g : Coordinator) (ctx : ApplyGatewayReconciliationContext)
    (a : GatewayReconciliationAttestation) :
    Reconciles g ctx a (g.verifyAndApplyGatewayReconciliation ctx a).1
      (g.verifyAndApplyGatewayReconciliation ctx a).2 := by
  unfold verifyAndApplyGatewayReconciliation
  cases hadmission : g.admission ctx a with
  | error e => exact .refused e
  | ok =>
    rw [admission, bind_eq_ok] at hadmission
    obtain ⟨-, -, hadmission⟩ := hadmission
    rw [bind_eq_ok] at hadmission
    obtain ⟨found, hsupersession, hadmission⟩ := hadmission
    cases found with
    | some replay =>
      obtain ⟨entry, decision⟩ := replay
      obtain rfl := pure_eq_ok.mp hadmission
      obtain ⟨existing, hfound, hrepeats⟩ := exists_repeats_of_supersession hsupersession
      exact .repeated existing entry decision hfound hrepeats
    | none =>
      obtain ⟨⟨r, activationReceiptId⟩, hbound, rfl⟩ := map_eq_ok.mp hadmission
      exact reconciles_of_applyOutcome (supersession_eq_none.mp hsupersession) hbound

end Coordinator

inductive CoordinatorCall where
  | reconcile (ctx : ApplyGatewayReconciliationContext) (a : GatewayReconciliationAttestation)
  | resource (call : ResourceCall)

inductive CoordinatorAnswer where
  | reconcile (result : Reconciled GatewayReconciliationDecision)
  | resource (result : Resource.Result ResourceAnswer)

namespace Coordinator

variable {g g' : Coordinator}

def apply (g : Coordinator) : CoordinatorCall → Coordinator × CoordinatorAnswer
  | .reconcile ctx a =>
    let (g, result) := g.verifyAndApplyGatewayReconciliation ctx a
    (g, .reconcile result)
  | .resource call =>
    let (resources, result) := commit g.resources (g.resources.call call)
    ({ g with resources }, .resource result)

/-- Every call returns. -/
def step (g : Coordinator) (call : CoordinatorCall) :
    Except Empty (Coordinator × CoordinatorAnswer) :=
  .ok (g.apply call)

end Coordinator

abbrev CoordinatorEvent := Event Coordinator CoordinatorCall CoordinatorAnswer

namespace Coordinator

variable {g g' : Coordinator}

variable {a : GatewayReconciliationAttestation}

lemma exists_row_of_boundReservation (h : g.boundReservation a = .ok (r, activationReceiptId)) :
    ∃ row ∈ g.resources.reservations, row.reservationId = a.reservationId ∧
      row.operationId = a.operationId ∧ row.driverFencingToken = a.fencingToken ∧
      row.state = .ok r.state ∧ r.state ≠ .finalized := by
  simp only [boundReservation, bind_eq_ok, mapError_eq_ok, refuseIf_eq_ok, orRefuse_eq_ok,
    pure_eq_ok, not_not] at h
  obtain ⟨r', hrequire, -, hoperation, -, hfencing, -, hopen, receiptId, -, hresult⟩ := h
  obtain ⟨rfl, -⟩ := Prod.mk.inj hresult
  obtain ⟨row, hrow, hid, hbody, hstate⟩ :=
    exists_row_of_requireReservation hrequire
  have hrowOperation : row.operationId = r'.operationId :=
    congrArg ReservationBody.operationId hbody
  have hrowFencing : row.driverFencingToken = r'.driverFencingToken :=
    congrArg ReservationBody.driverFencingToken hbody
  exact ⟨row, hrow, hid, hrowOperation.trans hoperation, hrowFencing.trans hfencing, hstate, hopen⟩

lemma advances_of_frozenReceipt (hs : g.resources.Distinct) {resources receipt}
    (h : g.frozenReceipt a r activationReceiptId = .ok (resources, receipt)) :
    resources = g.resources ∨ ∃ row receiptId atMs, row.state = .ok .active ∧
      g.resources.Advances row
        { row with quarantineReceiptId := some receiptId, quarantinedAtMs := some atMs }
        resources := by
  unfold frozenReceipt at h
  cases hstate : r.state with
  | reserved => simp [hstate] at h
  | finalized => simp [hstate] at h
  | active =>
    simp only [hstate, bind_eq_ok, mapError_eq_ok, pure_eq_ok, Prod.mk.injEq] at h
    obtain ⟨⟨_, decision⟩, hquarantine, rfl, -⟩ := h
    exact (advances_of_quarantine hs hquarantine).1
  | quarantined =>
    simp only [hstate, bind_eq_ok, pure_eq_ok, Prod.mk.injEq] at h
    obtain ⟨-, -, rfl, -⟩ := h
    exact .inl rfl

lemma change_of_reconciles (hs : g.resources.Distinct)
    (h : Reconciles g ctx a g' result) : g.resources.Change g'.resources := by
  have hsame : g.resources.Change g.resources := (ResourceAuthority.SameLedgers.refl _).effect.1
  cases h with
  | refused => exact hsame
  | repeated => exact hsame
  | projected => exact hsame
  | froze r activationReceiptId entry resources receipt passes bound uncertain frozen =>
    rcases advances_of_frozenReceipt hs frozen with rfl | ⟨row, receiptId, atMs, -, hadvances⟩
    · exact hsame
    · exact .advance row _ hadvances
  | settled r activationReceiptId resources decision outcome passes bound certain finality
      finalized receipt =>
      exact (effect_of_finalizeReservation hs finalized).1
  | interrupted r activationReceiptId resources decision e passes bound certain finality
      finalized =>
      exact (effect_of_finalizeReservation hs finalized).1

lemma change_of_apply (hs : g.resources.Distinct) (call : CoordinatorCall) :
    g.resources.Change (g.apply call).1.resources := by
  cases call with
  | reconcile ctx a => exact change_of_reconciles hs (g.reconciles ctx a)
  | resource call => exact change_of_step hs (c := call) rfl

/-- Coordinator calls reach the resources only through the resource authority. -/
lemma sound_of_run (hs : g.resources.Sound) (hrun : Run step g h g') : g'.resources.Sound :=
  Run.invariant (P := fun u => u.resources.Sound) hs
    (fun {t u call answer} ht hstep => by
      have happly : t.apply call = (u, answer) := Except.ok.inj hstep
      have hchange := change_of_apply ht.distinct call
      rw [happly] at hchange
      exact ht.change hchange) hrun

end Coordinator

end Nlos.Gateway
