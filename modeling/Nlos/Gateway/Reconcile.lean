import Nlos.Lib.Table
import Nlos.Resource.Reservations

/-!
# Gateway reconciliation

An enforcement gateway attests how an operation ended. The coordinator verifies the attestation,
orders it among the earlier ones for the reservation, and records a projection, freezes the
reservation or settles it. Custody vault, identity authority and the convergence of the task's
commit plan enter through their answers.
-/

namespace Nlos.Gateway

open Lib Capability Resource

abbrev GatewayId := Word 16
abbrev ReconcileId := Word 16

def custodyDomainSha256 (domain : String) (parts : List (List UInt8)) : Digest :=
  Resource.hash domain parts

inductive GatewayOutcomeDisposition where
  | effectClosed (finalSeq finalUsage : U64)
  | confirmedNoEffect
  | stillUncertainQuarantine
deriving DecidableEq

namespace GatewayOutcomeDisposition

def tag : GatewayOutcomeDisposition → UInt8
  | effectClosed _ _ => 1
  | confirmedNoEffect => 2
  | stillUncertainQuarantine => 3

def encodedSeqAndUsage : GatewayOutcomeDisposition → U64 × U64
  | effectClosed finalSeq finalUsage => (finalSeq, finalUsage)
  | confirmedNoEffect | stillUncertainQuarantine => (0, 0)

end GatewayOutcomeDisposition

inductive ReceiptFinality where
  | provisional
  | finalNonSupersedeable
deriving DecidableEq

def ReceiptFinality.tag : ReceiptFinality → UInt8
  | provisional => 1
  | finalNonSupersedeable => 2

structure GatewayReconciliationAttestation where
  reconcileId : ReconcileId
  gatewayId : GatewayId
  gatewayPrincipal : PrincipalId
  gatewayControlDomain : ControlDomainId
  keyId : KeyId
  custodyRotationEpoch : U64
  reservationId : ReservationId
  operationId : OperationId
  fencingToken : FencingToken
  disposition : GatewayOutcomeDisposition
  receiptVersion : U64
  finality : ReceiptFinality
  (issuedAtMs auditSignSeq : U64)
  signature : Ed25519Signature
deriving DecidableEq

namespace GatewayReconciliationAttestation

variable (a : GatewayReconciliationAttestation)

def signingDigest : Digest :=
  custodyDomainSha256 "nlos/gateway/reconciliation-attestation/v1"
    [a.reconcileId.bytes, a.gatewayId.bytes, a.gatewayPrincipal.bytes,
      a.gatewayControlDomain.bytes, a.keyId.bytes, a.custodyRotationEpoch.bytes,
      a.reservationId.bytes, a.operationId.bytes, a.fencingToken.bytes, [a.disposition.tag],
      a.disposition.encodedSeqAndUsage.1.bytes, a.disposition.encodedSeqAndUsage.2.bytes,
      a.receiptVersion.bytes, [a.finality.tag], a.issuedAtMs.bytes]

def effectClosedProofDigest : Digest :=
  custodyDomainSha256 "nlos/gateway/effect-closed-proof/v1"
    [a.signingDigest.bytes, a.signature.bytes]

def uncertainQuarantineReasonDigest : Digest :=
  custodyDomainSha256 "nlos/gateway/uncertain-quarantine-reason/v1"
    [a.signingDigest.bytes, a.signature.bytes]

/-- The fields apart from `auditSignSeq` agree. -/
def SemanticFieldsEqual (other : GatewayReconciliationAttestation) : Prop :=
  a.reconcileId = other.reconcileId ∧ a.gatewayId = other.gatewayId ∧
    a.gatewayPrincipal = other.gatewayPrincipal ∧
    a.gatewayControlDomain = other.gatewayControlDomain ∧ a.keyId = other.keyId ∧
    a.custodyRotationEpoch = other.custodyRotationEpoch ∧
    a.reservationId = other.reservationId ∧ a.operationId = other.operationId ∧
    a.fencingToken = other.fencingToken ∧ a.disposition = other.disposition ∧
    a.receiptVersion = other.receiptVersion ∧ a.finality = other.finality ∧
    a.issuedAtMs = other.issuedAtMs ∧ a.signature = other.signature

instance (other : GatewayReconciliationAttestation) : Decidable (a.SemanticFieldsEqual other) := by
  unfold SemanticFieldsEqual
  infer_instance

end GatewayReconciliationAttestation

structure ProjectedReconciliationAudit where
  reservationId : ReservationId
  operationId : OperationId
  (receiptVersion projectedSeq projectedUsage projectedRebate recordedAtMs : U64)
  attestationDigest : Digest

inductive ResourceConvergeDecision where
  | finalized (receiptId : ReceiptId)
  | replayed (receiptId : ReceiptId)
  | notDue

structure GatewaySettlementOutcome where
  reservationId : ReservationId
  operationId : OperationId
  receiptVersion : U64
  finalizationReceipt : FinalizationReceipt
  taskConvergence : Option ResourceConvergeDecision

inductive GatewayReconciliationDecision where
  | projectedProvisional (audit : ProjectedReconciliationAudit)
  | replayedProvisional (audit : ProjectedReconciliationAudit)
  | frozenQuarantined (quarantineReceipt : QuarantineReceipt) (receiptVersion : U64)
  | replayedQuarantined (quarantineReceipt : QuarantineReceipt) (receiptVersion : U64)
  | settledFinal (outcome : GatewaySettlementOutcome)
  | replayedFinal (outcome : GatewaySettlementOutcome)

inductive NonTerminalEntry where
  | provisional (audit : ProjectedReconciliationAudit)
  | quarantined (receipt : QuarantineReceipt)

structure ReservationReconcileState where
  latestVersion : U64
  latestAttestation : GatewayReconciliationAttestation
  projectedAudit : Option ProjectedReconciliationAudit
  nonTerminal : Option NonTerminalEntry
  terminalSettlement : Option GatewaySettlementOutcome

abbrev GatewayReconciliationLedger := Table ReservationId ReservationReconcileState

inductive CustodyVaultError where
  | refused (reason : String)

inductive TaskStoreError where
  | refused (reason : String)

inductive GatewayReconcileError where
  | invalidReceiptVersion (version : U64)
  | invalidDispositionFinalityCombination
  | invalidTimestamp (atMs : U64)
  | gatewayIdentityMismatch (expected actual : GatewayId)
  | signerBindingMismatch
  | custody (e : CustodyVaultError)
  | identity (e : IdentityAuthorityError)
  | resource (e : ResourceAuthorityError)
  | task (e : TaskStoreError)
  | operationBindingMismatch (expected actual : OperationId)
  | fencingTokenMismatch (expected actual : FencingToken)
  | reservationNotActivated (reservationId : ReservationId)
  | reservationAlreadyFinalizedOutOfBand (reservationId : ReservationId)
  | conflictingSameVersionAttestation (reservationId : ReservationId) (receiptVersion : U64)
  | staleReceiptVersion (reservationId : ReservationId) (currentVersion attemptedVersion : U64)
  | finalReceiptNonSupersedeable (reservationId : ReservationId)
      (settledVersion attemptedVersion : U64)
  | belowHighWaterMark (highWaterSeq highWaterUsage reportedSeq reportedUsage : U64)
  | exceedsUpperBound (upperBound reportedUsage : U64)

abbrev Reconciled := Except GatewayReconcileError

structure VerifiedCustodySignature where
  authorityId : GatewayId
  principalId : PrincipalId
  controlDomainId : ControlDomainId

structure ApplyGatewayReconciliationContext where
  expectedGatewayId : GatewayId
  verifyActiveEpochSignature : KeyId → U64 → Digest → Ed25519Signature → U64 →
    Except CustodyVaultError VerifiedCustodySignature
  /-- The generation of the key that the identity authority verified the signature with. -/
  verifySemanticAuthoritySignature : PrincipalId → ControlDomainId → KeyId → Digest →
    Ed25519Signature → U64 → Except IdentityAuthorityError Generation
  /-- The convergence of the commit plan, when the caller names one. -/
  convergeResourceCommitPlan : Option (ResourceAuthority → U64 →
    Except TaskStoreError ResourceConvergeDecision)
  verifiedAtMs : U64

namespace ApplyGatewayReconciliationContext

variable (ctx : ApplyGatewayReconciliationContext)

def verify (a : GatewayReconciliationAttestation) : Reconciled Unit := do
  refuseIf (a.receiptVersion = 0) (.invalidReceiptVersion 0)
  refuseIf (a.disposition = .stillUncertainQuarantine ∧ a.finality = .finalNonSupersedeable)
    .invalidDispositionFinalityCombination
  refuseIf (a.gatewayId ≠ ctx.expectedGatewayId)
    (.gatewayIdentityMismatch ctx.expectedGatewayId a.gatewayId)
  let custody ← (ctx.verifyActiveEpochSignature a.keyId a.custodyRotationEpoch a.signingDigest
    a.signature ctx.verifiedAtMs).mapError .custody
  refuseIf (custody.authorityId ≠ ctx.expectedGatewayId)
    (.gatewayIdentityMismatch ctx.expectedGatewayId custody.authorityId)
  refuseIf (custody.principalId ≠ a.gatewayPrincipal ∨
    custody.controlDomainId ≠ a.gatewayControlDomain) .signerBindingMismatch
  let generation ← (ctx.verifySemanticAuthoritySignature a.gatewayPrincipal
    a.gatewayControlDomain a.keyId a.signingDigest a.signature ctx.verifiedAtMs).mapError .identity
  refuseIf (generation.val ≠ a.custodyRotationEpoch) .signerBindingMismatch

/-- A plan converges at a time that fits the task store. -/
def checkTimestamp : Reconciled Unit :=
  refuseIf (ctx.convergeResourceCommitPlan.isSome ∧ 2 ^ 63 ≤ ctx.verifiedAtMs.val)
    (.invalidTimestamp ctx.verifiedAtMs)

def converge (resources : ResourceAuthority) : Reconciled (Option ResourceConvergeDecision) :=
  match ctx.convergeResourceCommitPlan with
  | none => pure none
  | some plan => some <$> (plan resources ctx.verifiedAtMs).mapError .task

end ApplyGatewayReconciliationContext

/-! ## Applying an attestation -/

structure Coordinator where
  ledger : GatewayReconciliationLedger
  resources : ResourceAuthority

namespace Coordinator

variable (g : Coordinator) (ctx : ApplyGatewayReconciliationContext)
  (a : GatewayReconciliationAttestation)

/-- A repeated settlement converges the plan again and keeps its answer. -/
def replayFinal (existing : ReservationReconcileState) (settled : GatewaySettlementOutcome) :
    Reconciled (ReservationReconcileState × GatewayReconciliationDecision) := do
  ctx.checkTimestamp
  let converged ← ctx.converge g.resources
  let settled := { settled with taskConvergence := converged <|> settled.taskConvergence }
  pure ({ existing with terminalSettlement := some settled }, .replayedFinal settled)

/-- The order among the attestations for one reservation: a repeated one gets its answer, and
nothing supersedes a settlement. -/
def supersession : Reconciled
    (Option (ReservationReconcileState × GatewayReconciliationDecision)) :=
  match g.ledger[a.reservationId]? with
  | none => pure none
  | some existing =>
    match existing.terminalSettlement with
    | some settled =>
      if a.receiptVersion = existing.latestVersion then do
        refuseIf (¬ existing.latestAttestation.SemanticFieldsEqual a)
          (.conflictingSameVersionAttestation a.reservationId a.receiptVersion)
        some <$> g.replayFinal ctx existing settled
      else
        .error (.finalReceiptNonSupersedeable a.reservationId existing.latestVersion
          a.receiptVersion)
    | none =>
      if a.receiptVersion = existing.latestVersion then do
        refuseIf (¬ existing.latestAttestation.SemanticFieldsEqual a)
          (.conflictingSameVersionAttestation a.reservationId a.receiptVersion)
        match existing.nonTerminal with
        | some (.provisional audit) => pure (some (existing, .replayedProvisional audit))
        | some (.quarantined receipt) =>
          pure (some (existing, .replayedQuarantined receipt existing.latestVersion))
        | none => pure none
      else do
        refuseIf (a.receiptVersion < existing.latestVersion)
          (.staleReceiptVersion a.reservationId existing.latestVersion a.receiptVersion)
        pure none

def boundReservation : Reconciled (ReservationRecord × ReceiptId) := do
  let r ← (g.resources.requireReservation a.reservationId).mapError .resource
  refuseIf (r.operationId ≠ a.operationId)
    (.operationBindingMismatch r.operationId a.operationId)
  refuseIf (r.driverFencingToken ≠ a.fencingToken)
    (.fencingTokenMismatch r.driverFencingToken a.fencingToken)
  refuseIf (r.state = .finalized) (.reservationAlreadyFinalizedOutOfBand a.reservationId)
  let activationReceiptId ← orRefuse r.activationReceiptId
    (.reservationNotActivated a.reservationId)
  pure (r, activationReceiptId)

def frozenReceipt (r : ReservationRecord) (activationReceiptId : ReceiptId) :
    Reconciled (ResourceAuthority × QuarantineReceipt) :=
  match r.state with
  | .active => do
    let (resources, decision) ← (g.resources.quarantine
      { reservationId := a.reservationId
        operationId := a.operationId
        activationReceiptId
        reasonDigest := a.uncertainQuarantineReasonDigest
        quarantinedAtMs := a.issuedAtMs }).mapError .resource
    pure (resources, decision.receipt)
  | .quarantined => do
    let receipt ← (g.resources.inspectQuarantineReceipt a.reservationId).mapError .resource
    pure (g.resources, receipt)
  | .reserved | .finalized => .error (.reservationNotActivated a.reservationId)

def freeze (r : ReservationRecord) (activationReceiptId : ReceiptId) :
    Reconciled (Coordinator × GatewayReconciliationDecision) := do
  let (resources, receipt) ← g.frozenReceipt a r activationReceiptId
  let entry : ReservationReconcileState := {
    latestVersion := a.receiptVersion
    latestAttestation := a
    projectedAudit := g.ledger[a.reservationId]?.bind ReservationReconcileState.projectedAudit
    nonTerminal := some (.quarantined receipt)
    terminalSettlement := none }
  pure ({ ledger := g.ledger.insert a.reservationId entry, resources },
    .frozenQuarantined receipt a.receiptVersion)

def checkOutcome (r : ReservationRecord) : Reconciled Unit := do
  let (reportedSeq, reportedUsage) := a.disposition.encodedSeqAndUsage
  refuseIf (reportedSeq < r.usageHighWaterSeq ∨ reportedUsage < r.usageHighWater)
    (.belowHighWaterMark r.usageHighWaterSeq r.usageHighWater reportedSeq reportedUsage)
  refuseIf (r.upperBound < reportedUsage) (.exceedsUpperBound r.upperBound reportedUsage)

def project (r : ReservationRecord) : Coordinator × GatewayReconciliationDecision :=
  let audit : ProjectedReconciliationAudit := {
    reservationId := a.reservationId
    operationId := a.operationId
    receiptVersion := a.receiptVersion
    projectedSeq := a.disposition.encodedSeqAndUsage.1
    projectedUsage := a.disposition.encodedSeqAndUsage.2
    projectedRebate := r.upperBound.saturatingSub a.disposition.encodedSeqAndUsage.2
    recordedAtMs := ctx.verifiedAtMs
    attestationDigest := a.signingDigest }
  let entry : ReservationReconcileState := {
    latestVersion := a.receiptVersion
    latestAttestation := a
    projectedAudit := some audit
    nonTerminal := some (.provisional audit)
    terminalSettlement := none }
  ({ g with ledger := g.ledger.insert a.reservationId entry }, .projectedProvisional audit)

def settlementRequest (activationReceiptId : ReceiptId) : FinalizeReservationRequest where
  reservationId := a.reservationId
  operationId := a.operationId
  activationReceiptId := activationReceiptId
  effectClosedProofDigest := a.effectClosedProofDigest
  finalSeq := a.disposition.encodedSeqAndUsage.1
  finalUsage := a.disposition.encodedSeqAndUsage.2
  finalizedAtMs := a.issuedAtMs

def lock (resources : ResourceAuthority) (outcome : GatewaySettlementOutcome) : Coordinator where
  ledger := g.ledger.insert a.reservationId {
    latestVersion := a.receiptVersion
    latestAttestation := a
    projectedAudit := none
    nonTerminal := none
    terminalSettlement := some outcome }
  resources := resources

/-- The resource authority settles first; the ledger learns of it after the plan converged. -/
def settleFinal (activationReceiptId : ReceiptId) :
    Coordinator × Reconciled GatewayReconciliationDecision :=
  match g.resources.finalizeReservation (settlementRequest a activationReceiptId) with
  | .error e => (g, .error (.resource e))
  | .ok (resources, decision) =>
    match ctx.converge resources with
    | .error e => ({ g with resources }, .error e)
    | .ok taskConvergence =>
      let outcome : GatewaySettlementOutcome := {
        reservationId := a.reservationId
        operationId := a.operationId
        receiptVersion := a.receiptVersion
        finalizationReceipt := decision.receipt
        taskConvergence }
      (g.lock a resources outcome, .ok (.settledFinal outcome))

def applyOutcome (r : ReservationRecord) (activationReceiptId : ReceiptId) :
    Coordinator × Reconciled GatewayReconciliationDecision :=
  if a.disposition = .stillUncertainQuarantine then
    commit g (g.freeze a r activationReceiptId)
  else
    match checkOutcome a r with
    | .error e => (g, .error e)
    | .ok () =>
      match a.finality with
      | .provisional => ((g.project ctx a r).1, .ok (g.project ctx a r).2)
      | .finalNonSupersedeable =>
        match ctx.checkTimestamp with
        | .error e => (g, .error e)
        | .ok () => g.settleFinal ctx a activationReceiptId

/-- The gates before the outcome: a decision already made, or the open reservation. -/
def admission : Reconciled ((ReservationReconcileState × GatewayReconciliationDecision) ⊕
      (ReservationRecord × ReceiptId)) := do
  ctx.verify a
  match ← g.supersession ctx a with
  | some replay => pure (.inl replay)
  | none => .inr <$> g.boundReservation a

def verifyAndApplyGatewayReconciliation : Coordinator × Reconciled GatewayReconciliationDecision :=
  match g.admission ctx a with
  | .error e => (g, .error e)
  | .ok (.inl (entry, decision)) =>
    ({ g with ledger := g.ledger.insert a.reservationId entry }, .ok decision)
  | .ok (.inr (r, activationReceiptId)) => g.applyOutcome ctx a r activationReceiptId

end Coordinator

end Nlos.Gateway
