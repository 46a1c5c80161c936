import Nlos.Gateway.Settlement

/-!
# Interrupted settlements

The resource authority settles before the commit plan converges, and the ledger learns of the
settlement only afterwards.
-/

namespace Nlos.Gateway

open Lib Capability Resource

namespace Coordinator

variable {g g' : Coordinator} {ctx : ApplyGatewayReconciliationContext}
  {a : GatewayReconciliationAttestation} {result : Reconciled GatewayReconciliationDecision}

/-- The reservation of the attestation is finalized, and the ledger does not know. -/
structure Stranded (g : Coordinator) (a : GatewayReconciliationAttestation) : Prop where
  passes : g.Passes a
  finalized : ∃ row ∈ g.resources.reservations, row.reservationId = a.reservationId ∧
    row.operationId = a.operationId ∧ row.driverFencingToken = a.fencingToken ∧
    row.isFinalized = true

lemma requireReservation_eq_ok {s : ResourceAuthority} (hs : s.Distinct)
    (hrow : row ∈ s.reservations) (hstate : row.state = .ok state) :
    s.requireReservation row.reservationId = .ok { row.toReservationBody with state } := by
  have hfound := hs.reservations.find?_eq_some_iff.mpr ⟨hrow, rfl⟩
  have hrecord : row.record = .ok { row.toReservationBody with state } := by
    rw [ReservationRow.record, hstate]
    rfl
  rw [ResourceAuthority.requireReservation, ResourceAuthority.reservation, hfound,
    Option.mapM_some, hrecord]
  rfl

lemma boundReservation_of_stranded (hs : g.resources.Distinct) (h : g.Stranded a) :
    g.boundReservation a = .error (.reservationAlreadyFinalizedOutOfBand a.reservationId) := by
  obtain ⟨row, hrow, hid, hoperation, hfencing, hfinal⟩ := h.finalized
  have hrequire := requireReservation_eq_ok hs hrow (ReservationRow.isFinalized_iff.mp hfinal)
  rw [hid] at hrequire
  rw [boundReservation, hrequire]
  simp [Except.mapError, refuseIf, hoperation, hfencing, bind, Except.bind]

lemma refused_of_stranded (hs : g.resources.Distinct) (h : g.Stranded a)
    (hvalid : ctx.verify a = .ok ()) : g.verifyAndApplyGatewayReconciliation ctx a =
      (g, .error (.reservationAlreadyFinalizedOutOfBand a.reservationId)) := by
  have hadmission : g.admission ctx a =
      .error (.reservationAlreadyFinalizedOutOfBand a.reservationId) := by
    rw [admission, hvalid]
    change (g.supersession ctx a >>= _) = _
    rw [supersession_eq_none.mpr h.passes]
    change (Sum.inr <$> g.boundReservation a) = _
    rw [boundReservation_of_stranded hs h]
    rfl
  rw [verifyAndApplyGatewayReconciliation, hadmission]

lemma stranded_of_interrupted (hs : g.resources.Sound) (h : Reconciles g ctx a g' (.error e))
    (hbefore : g.resources.finalizeReceipt a.reservationId = none)
    (hafter : (g'.resources.finalizeReceipt a.reservationId).isSome = true) : g'.Stranded a := by
  cases h with
  | refused => simp [hbefore] at hafter
  | interrupted r activationReceiptId resources decision e passes bound certain finality
      finalized =>
      refine ⟨passes, ?_⟩
      obtain ⟨rfl | ⟨row, receipt, account, -, hrequest, hsettles⟩, -⟩ :=
        ResourceAuthority.settles_of_finalizeReservation hs.distinct finalized
      · simp [hbefore] at hafter
      · obtain ⟨row', hrow', hid', hoperation, hfencing, -, -⟩ :=
          exists_row_of_boundReservation bound
        have hid : row.reservationId = a.reservationId := hsettles.binds.symm.trans
          (congrArg FinalizeReservationRequest.reservationId hrequest)
        obtain rfl := hs.distinct.reservations.eq hrow' hsettles.stored (hid'.trans hid.symm)
        refine ⟨row'.settled receipt, ?_, hid, hoperation, hfencing,
          ReservationRow.isFinalized_settled hsettles.state⟩
        rw [hsettles.reservations]
        exact mem_replaceRow_self hsettles.stored rfl

/-- No other attestation for the reservation is recorded any more. -/
lemma passes_of_ledgerChange (hs : g.resources.Distinct) (h : g.Stranded a)
    (hchange : LedgerChange g a' g'.ledger result) : g'.Passes a := by
  intro entry hentry
  cases hchange with
  | kept e same => exact h.passes entry (same ▸ hentry)
  | repeated existing entry' decision found repeats inserted =>
    rw [inserted, Table.getElem?_insert_eq] at hentry
    split_ifs at hentry with hid
    · obtain rfl := Option.some.inj hentry
      rw [hid] at found
      obtain ⟨hnone, hversion⟩ := h.passes existing found
      rw [repeats.latestVersion, repeats.latestAttestation, repeats.nonTerminal]
      refine ⟨?_, hversion⟩
      rcases repeats.answer with ⟨-, hkept⟩ | ⟨settled, settled', hsome, -⟩
      · exact hkept
      · simp [hnone] at hsome
    · exact h.passes entry hentry
  | recorded entry' decision passes bound latestVersion latestAttestation shape inserted answered
      fresh =>
      rw [inserted, Table.getElem?_insert_eq] at hentry
      split_ifs at hentry with hid
      · -- To be recorded, the reservation would have to be open.
        obtain ⟨r, activationReceiptId, hbound⟩ := bound
        obtain ⟨row, hrow, hrowId, -, -, hstate, hopen⟩ := exists_row_of_boundReservation hbound
        obtain ⟨row', hrow', hrowId', -, -, hfinal⟩ := h.finalized
        obtain rfl := hs.reservations.eq hrow hrow' (hrowId.trans (hid.trans hrowId'.symm))
        rw [ReservationRow.isFinalized_iff.mp hfinal] at hstate
        exact absurd (Except.ok.inj hstate).symm hopen
      · exact h.passes entry hentry

lemma stranded_of_apply (hs : g.resources.Distinct) (h : g.Stranded a) (call : CoordinatorCall) :
    (g.apply call).1.Stranded a := by
  refine ⟨?_, ?_⟩
  · rcases g.ledger_of_apply call with ⟨ctx, a', result, -, -, hchange⟩ | ⟨-, hsame⟩
    · exact passes_of_ledgerChange hs h hchange
    · intro entry hentry
      exact h.passes entry (hsame ▸ hentry)
  · obtain ⟨row, hrow, hid, hoperation, hfencing, hfinal⟩ := h.finalized
    obtain ⟨row', hrow', hcontinues⟩ :=
      ResourceAuthority.exists_continuing hs (change_of_apply hs call) hrow
    obtain rfl := hcontinues.finalized hfinal
    exact ⟨row', hrow', hid, hoperation, hfencing, hfinal⟩

/-- No call finds its way out: a stranded settlement stays stranded. -/
lemma stranded_of_run (hs : g.resources.Sound) (hg : g.Stranded a)
    (hrun : Run step g h g') : g'.Stranded a := by
  induction hrun with
  | refl => exact hg
  | @snoc h t u call answer hprefix hstep ih =>
    have happly : t.apply call = (u, answer) := Except.ok.inj hstep
    have hnext := stranded_of_apply (sound_of_run hs hprefix).distinct ih call
    rwa [happly] at hnext

/-- After a settlement that the resource authority made and the call answered with an error, the
same attestation is refused as settled out of band, whatever happens in between. -/
theorem interrupted_settlement_refused {h₀ : List ResourceEvent} {resources : ResourceAuthority}
    (hresources : Run ResourceAuthority.step .new h₀ resources)
    {ledger : GatewayReconciliationLedger} {e : GatewayReconcileError}
    (hfirst : (⟨ledger, resources⟩ : Coordinator).verifyAndApplyGatewayReconciliation ctx a =
      (g, .error e)) (hbefore : resources.finalizeReceipt a.reservationId = none)
    (hafter : (g.resources.finalizeReceipt a.reservationId).isSome = true)
    {h : List CoordinatorEvent} (hrun : Run step g h g')
    {ctx' : ApplyGatewayReconciliationContext} (hvalid : ctx'.verify a = .ok ()) :
    g'.verifyAndApplyGatewayReconciliation ctx' a =
      (g', .error (.reservationAlreadyFinalizedOutOfBand a.reservationId)) := by
  have hsound : resources.Sound := ResourceAuthority.sound_new.run hresources
  have hreconciles := Coordinator.reconciles ⟨ledger, resources⟩ ctx a
  rw [hfirst] at hreconciles
  have hg : g.resources.Sound :=
    hsound.change (change_of_reconciles hsound.distinct hreconciles)
  have hstranded := stranded_of_run hg
    (stranded_of_interrupted hsound hreconciles hbefore hafter) hrun
  exact refused_of_stranded (sound_of_run hg hrun).distinct hstranded hvalid

namespace Sample

/-- The sample settlement is interrupted and then refused. -/
lemma exists_stranded :
    ∃ h₀ resources g e g' reservationId, Run ResourceAuthority.step .new h₀ resources ∧
      (⟨∅, resources⟩ : Coordinator).verifyAndApplyGatewayReconciliation failing attestation =
        (g, .error (.task e)) ∧ resources.finalizeReceipt attestation.reservationId = none ∧
      (g.resources.finalizeReceipt attestation.reservationId).isSome = true ∧
      g.verifyAndApplyGatewayReconciliation converging attestation =
        (g', .error (.reservationAlreadyFinalizedOutOfBand reservationId)) := by
  obtain ⟨h₀, s, hrun, -, -, hstrands⟩ := exists_open
  rw [strands, Bool.and_eq_true] at hstrands
  obtain ⟨hbefore, hstrands⟩ := hstrands
  split at hstrands
  · next g e hfirst =>
    rw [Bool.and_eq_true] at hstrands
    obtain ⟨hafter, hsecond⟩ := hstrands
    split at hsecond
    · next g' reservationId hrefused =>
      exact ⟨h₀, s, g, e, g', reservationId, hrun, hfirst, Option.isNone_iff_eq_none.mp hbefore,
        hafter, hrefused⟩
    · cases hsecond
  · cases hstrands

end Sample

/-- The settlement is interrupted and the failing convergence is tried once more in between. -/
theorem interrupted_settlement_refused_sample :
    ∃ h₀ resources g e g', Run ResourceAuthority.step .new h₀ resources ∧
      (⟨∅, resources⟩ : Coordinator).verifyAndApplyGatewayReconciliation Sample.failing
        Sample.attestation = (g, .error (.task e)) ∧
      (∃ h, Run step g h g' ∧
        h.map Event.input = [.reconcile Sample.failing Sample.attestation]) ∧
      g'.verifyAndApplyGatewayReconciliation Sample.converging Sample.attestation =
        (g', .error (.reservationAlreadyFinalizedOutOfBand Sample.attestation.reservationId)) := by
  obtain ⟨h₀, resources, g, e, -, -, hrun, hfirst, hbefore, hafter, -⟩ := Sample.exists_stranded
  have hagain := Run.single (f := step) (s := g)
    (a := .reconcile Sample.failing Sample.attestation) rfl
  exact ⟨h₀, resources, g, e, _, hrun, hfirst, ⟨_, hagain, rfl⟩,
    interrupted_settlement_refused hrun hfirst hbefore hafter hagain rfl⟩

/-- A settlement that a failed convergence interrupts is not resumed by the same attestation once
the plan converges. -/
theorem interrupted_settlement_not_resumed :
    ∃ h₀ resources g e, Run ResourceAuthority.step .new h₀ resources ∧
      (⟨∅, resources⟩ : Coordinator).verifyAndApplyGatewayReconciliation Sample.failing
        Sample.attestation = (g, .error (.task e)) ∧
      (g.resources.finalizeReceipt Sample.attestation.reservationId).isSome = true ∧ ∀ outcome,
        (g.verifyAndApplyGatewayReconciliation Sample.converging Sample.attestation).2 ≠
          .ok (.settledFinal outcome) ∧
        (g.verifyAndApplyGatewayReconciliation Sample.converging Sample.attestation).2 ≠
          .ok (.replayedFinal outcome) := by
  obtain ⟨h₀, resources, g, e, g', reservationId, hrun, hfirst, -, hafter, hrefused⟩ :=
    Sample.exists_stranded
  refine ⟨h₀, resources, g, e, hrun, hfirst, hafter, fun outcome => ?_⟩
  rw [hrefused]
  exact ⟨(fun h => nomatch h), (fun h => nomatch h)⟩

end Coordinator

end Nlos.Gateway
