import Nlos.Capability.Model
import Nlos.Lib.Rows

/-!
# The capability authority

The durable tables of the authority and its commands. A command runs in one transaction: it
either answers and its rows are committed, or it fails and leaves the tables as they were.
-/

namespace Nlos.Capability

open Lib

structure CapabilityHead extends CapabilityTerms where
  capabilityId : CapabilityId
  currentGeneration : Generation

structure CapabilityVersion where
  capabilityId : CapabilityId
  generation : Generation
  revokedAtMs : Option U64

structure IssueReceiptRow where
  idempotencyKey : IdempotencyKey
  requestDigest : Digest
  receipt : CapabilityIssueReceipt

structure RevocationReceiptRow where
  idempotencyKey : IdempotencyKey
  requestDigest : Digest
  receipt : CapabilityRevocationReceipt

structure ConsumptionRow where
  idempotencyKey : IdempotencyKey
  requestDigest : Digest
  receipt : CapabilityConsumptionReceipt

structure CapabilityAuthority where
  heads : List CapabilityHead
  versions : List CapabilityVersion
  issueReceipts : List IssueReceiptRow
  revocationReceipts : List RevocationReceiptRow
  consumptionRows : List ConsumptionRow

def CapabilityAuthority.new : CapabilityAuthority := ⟨[], [], [], [], []⟩

abbrev Result (α : Type) := Except CapabilityAuthorityError α

/-- A clash with a declared key is a storage error. -/
abbrev insertInto {α : Type} (clash : α → Prop) [DecidablePred clash] :
    α → List α → Result (List α) :=
  insertOrRefuse .sqlite clash

/-- Columns are signed 64-bit integers. -/
def encodeU64 (value : U64) : Result Unit :=
  refuseIf (2 ^ 63 ≤ value.val) (.corruptRecord "u64 exceeds SQLite")

namespace CapabilityAuthority

variable (s : CapabilityAuthority)

def loadRecordGeneration (capabilityId : CapabilityId) (generation : Generation) :
    Option CapabilityRecord := do
  let head ← s.heads.find? (·.capabilityId = capabilityId)
  let version ← s.versions.find? fun v => v.capabilityId = capabilityId ∧ v.generation = generation
  pure {
    head.toCapabilityTerms with
    handle := ⟨capabilityId, generation⟩
    revokedAtMs := version.revokedAtMs }

def loadCurrentRecord (capabilityId : CapabilityId) : Option CapabilityRecord := do
  let head ← s.heads.find? (·.capabilityId = capabilityId)
  s.loadRecordGeneration capabilityId head.currentGeneration

def loadExactCurrent (handle : CapabilityHandle) : Result CapabilityRecord := do
  let current ← orRefuse (s.loadCurrentRecord handle.capabilityId)
    (.capabilityNotFound handle.capabilityId)
  refuseIf (current.handle.generation ≠ handle.generation) .generationFenceConflict
  pure current

/-- The loop of `validate_active_chain`, with the turns left and the depth reached. -/
def validateChainFrom (atMs : U64) : ℕ → ℕ → CapabilityRecord → Result Unit
  | 0, _, _ => .error (.corruptRecord "capability ancestor chain exceeds 256")
  | turns + 1, depth, record => do
    refuseIf (record.revokedAtMs.isSome)
      (if depth = 0 then .capabilityRevoked else .ancestorRevokedOrFenced)
    refuseIf (atMs < record.validFromMs) .capabilityNotYetValid
    refuseIf (record.validUntilMs < atMs) .capabilityExpired
    match record.parent with
    | none => pure ()
    | some parentHandle => do
      let parent ← orRefuse (s.loadCurrentRecord parentHandle.capabilityId)
        .ancestorRevokedOrFenced
      refuseIf (parent.handle.generation ≠ parentHandle.generation) .ancestorRevokedOrFenced
      validateChainFrom atMs turns (depth + 1) parent

def validateActiveChain (record : CapabilityRecord) (atMs : U64) : Result Unit :=
  s.validateChainFrom atMs 256 0 record

def admitSemantic (handle : CapabilityHandle) (signer : VerifiedSemanticSigner)
    (target : CapabilityTarget) (requiredRight : CapabilityRights) (purposeDigest : Option Digest)
    (atMs : U64) : Result CapabilityRecord := do
  let record ← s.loadExactCurrent handle
  s.validateActiveChain record atMs
  refuseIf (signer.principalId ≠ record.holder ∨
    signer.controlDomainId ≠ record.holderControlDomain) .holderMismatch
  refuseIf (¬ targetIsWithin target record.target) .targetMismatch
  refuseIf (¬ record.rights.contains requiredRight) .requiredRightMissing
  refuseIf (record.purposeDigest ≠ purposeDigest) .purposeMismatch
  pure record

structure SemanticAuthorization where
  capabilityId : CapabilityId
  generation : Generation
  holder : PrincipalId
  target : CapabilityTarget
  grantedRights : CapabilityRights
  purposeDigest : Option Digest

def authorizeSemantic (request : AuthorizeSemanticRequest) : Result SemanticAuthorization := do
  let record ← s.admitSemantic request.handle request.signer request.target request.requiredRight
    request.purposeDigest request.admittedAtMs
  pure ⟨record.handle.capabilityId, record.handle.generation, record.holder, record.target,
    record.rights, record.purposeDigest⟩

inductive CapabilityIssueDecision where
  | issued (record : CapabilityRecord) (receipt : CapabilityIssueReceipt)
  | replayed (record : CapabilityRecord) (receipt : CapabilityIssueReceipt)

def loadIssueReplay (idempotencyKey : IdempotencyKey) (requestDigest : Digest) :
    Result (Option CapabilityIssueDecision) :=
  match s.issueReceipts.find? (·.idempotencyKey = idempotencyKey) with
  | none => pure none
  | some row => do
    refuseIf (row.requestDigest ≠ requestDigest) .idempotencyConflict
    let record ← orRefuse
      (s.loadRecordGeneration row.receipt.capabilityId row.receipt.generation)
      (.corruptRecord "issued capability missing")
    pure (some (.replayed record row.receipt))

def newRecord (requestDigest : Digest) (terms : CapabilityTerms) : CapabilityRecord :=
  { terms with
    handle := ⟨Sha256.taggedId "nlos/capability/id/v1" [requestDigest.bytes], .initial⟩
    revokedAtMs := none }

def newIssueReceipt (record : CapabilityRecord) (requestDigest : Digest) (issuedAtMs : U64) :
    CapabilityIssueReceipt where
  receiptId := Sha256.taggedId "nlos/capability-issue-receipt/id/v1"
    [record.handle.capabilityId.bytes, requestDigest.bytes]
  capabilityId := record.handle.capabilityId
  generation := record.handle.generation
  parent := record.parent
  issuedAtMs := issuedAtMs

def newHead (record : CapabilityRecord) : CapabilityHead :=
  { record.toCapabilityTerms with
    capabilityId := record.handle.capabilityId
    currentGeneration := .initial }

def insertCapability (record : CapabilityRecord) (receipt : CapabilityIssueReceipt)
    (idempotencyKey : IdempotencyKey) (requestDigest : Digest) : Result CapabilityAuthority := do
  forSome record.parent fun parent => encodeU64 parent.generation.val
  encodeU64 record.validFromMs
  encodeU64 record.validUntilMs
  forSome record.callLimit encodeU64
  encodeU64 receipt.issuedAtMs
  let heads ← insertInto (·.capabilityId = record.handle.capabilityId) (newHead record) s.heads
  let versions ← insertInto
    (fun v => v.capabilityId = record.handle.capabilityId ∧ v.generation = .initial)
    ⟨record.handle.capabilityId, .initial, none⟩ s.versions
  let issueReceipts ← insertInto
    (fun r => r.idempotencyKey = idempotencyKey ∨ r.receipt.receiptId = receipt.receiptId ∨
      r.receipt.capabilityId = record.handle.capabilityId)
    ⟨idempotencyKey, requestDigest, receipt⟩ s.issueReceipts
  pure { s with heads, versions, issueReceipts }

end CapabilityAuthority

def activeIdentity (identity : IdentityAuthority) (keyId : KeyId) (atMs : U64) :
    Result IdentityBinding := do
  let binding ← (identity.inspectCurrentBinding keyId).mapError .identity
  refuseIf (binding.keyRevokedAtMs.isSome ∨ atMs < binding.keyValidFromMs ∨
    binding.keyValidUntilMs < atMs) (.identityKeyInactive keyId)
  pure binding

def commandSignatureError : IdentityAuthorityError → CapabilityAuthorityError
  | .invalidSignature => .signatureInvalid
  | .principalNotFound principalId => .principalUnknown principalId
  | .keyRevoked => .keyRevoked
  | other => .identity other

def verifyCommandSignature (identity : IdentityAuthority) (proof : CommandSignatureProof)
    (message : Digest) (atMs : U64) : Result VerifiedCapabilityCommandSigner :=
  (identity.verifyCapabilityCommandSignature message proof.signer proof.signature atMs).mapError
    commandSignatureError

def requireSignedBy (verified : VerifiedCapabilityCommandSigner) (binding : IdentityBinding) :
    Result Unit :=
  refuseIf (¬ (verified.principalId = binding.principalId ∧ verified.keyId = binding.keyId))
    .signatureInvalid

def validateBounds (validFromMs validUntilMs : U64) (callLimit : Option U64) : Result Unit := do
  refuseIf (validUntilMs < validFromMs) .invalidValidity
  refuseIf (callLimit = some 0) .invalidCallLimit

def purposeIsAttenuated (parent child : Option Digest) : Bool :=
  match parent, child with
  | none, _ => true
  | some expected, some actual => expected = actual
  | some _, none => false

def callLimitIsAttenuated (parent child : Option U64) : Bool :=
  match parent, child with
  | none, _ => true
  | some maximum, some actual => actual ≤ maximum
  | some _, none => false

def IssueRootCapabilityRequest.terms (request : IssueRootCapabilityRequest)
    (issuer holder : IdentityBinding) : CapabilityTerms where
  issuer := issuer.principalId
  issuerControlDomain := issuer.controlDomainId
  holder := holder.principalId
  holderControlDomain := holder.controlDomainId
  target := request.target
  rights := request.rights
  purposeDigest := request.purposeDigest
  validFromMs := request.validFromMs
  validUntilMs := request.validUntilMs
  delegationDepthRemaining := request.delegationDepthRemaining
  callLimit := request.callLimit
  parent := none

def DelegateCapabilityRequest.terms (request : DelegateCapabilityRequest)
    (delegator recipient : IdentityBinding) : CapabilityTerms where
  issuer := delegator.principalId
  issuerControlDomain := delegator.controlDomainId
  holder := recipient.principalId
  holderControlDomain := recipient.controlDomainId
  target := request.target
  rights := request.rights
  purposeDigest := request.purposeDigest
  validFromMs := request.validFromMs
  validUntilMs := request.validUntilMs
  delegationDepthRemaining := request.delegationDepthRemaining
  callLimit := request.callLimit
  parent := some request.parent

namespace CapabilityAuthority

variable (s : CapabilityAuthority) (identity : IdentityAuthority)

def issueRootImpl (request : IssueRootCapabilityRequest) (proof : CommandSignatureProof) :
    Result (CapabilityAuthority × CapabilityIssueDecision) := do
  validateBounds request.validFromMs request.validUntilMs request.callLimit
  let requestDigest := rootRequestDigest request
  match ← s.loadIssueReplay request.idempotencyKey requestDigest with
  | some replay => pure (s, replay)
  | none => do
    let verified ← verifyCommandSignature identity proof (issueRootCommandMessage request)
      request.issuedAtMs
    let issuer ← activeIdentity identity request.issuerKeyId request.issuedAtMs
    requireSignedBy verified issuer
    let holder ← activeIdentity identity request.holderKeyId request.issuedAtMs
    let record := newRecord requestDigest (request.terms issuer holder)
    let receipt := newIssueReceipt record requestDigest request.issuedAtMs
    let s' ← s.insertCapability record receipt request.idempotencyKey requestDigest
    pure (s', .issued record receipt)

def checkAttenuation (parent : CapabilityRecord) (request : DelegateCapabilityRequest) :
    Result Unit := do
  refuseIf (¬ parent.rights.contains .delegate) .delegationNotAllowed
  refuseIf (¬ request.rights.isSubsetOf parent.rights) .rightsAmplification
  refuseIf (¬ targetIsWithin request.target parent.target) .scopeAmplification
  refuseIf (¬ purposeIsAttenuated parent.purposeDigest request.purposeDigest) .purposeAmplification
  refuseIf (request.validFromMs < parent.validFromMs ∨ parent.validUntilMs < request.validUntilMs)
    .validityAmplification
  refuseIf (¬ callLimitIsAttenuated parent.callLimit request.callLimit) .callLimitAmplification
  refuseIf (parent.delegationDepthRemaining ≤ request.delegationDepthRemaining)
    .delegationDepthAmplification

def delegateImpl (request : DelegateCapabilityRequest) (proof : CommandSignatureProof) :
    Result (CapabilityAuthority × CapabilityIssueDecision) := do
  validateBounds request.validFromMs request.validUntilMs request.callLimit
  let requestDigest := delegateRequestDigest request
  match ← s.loadIssueReplay request.idempotencyKey requestDigest with
  | some replay => pure (s, replay)
  | none => do
    let parent ← s.loadExactCurrent request.parent
    s.validateActiveChain parent request.delegatedAtMs
    let verified ← verifyCommandSignature identity proof (delegateCommandMessage request)
      request.delegatedAtMs
    let delegator ← activeIdentity identity request.delegatorKeyId request.delegatedAtMs
    requireSignedBy verified delegator
    refuseIf (delegator.principalId ≠ parent.holder ∨
      delegator.controlDomainId ≠ parent.holderControlDomain) .delegatorMismatch
    let recipient ← activeIdentity identity request.recipientKeyId request.delegatedAtMs
    checkAttenuation parent request
    let record := newRecord requestDigest (request.terms delegator recipient)
    let receipt := newIssueReceipt record requestDigest request.delegatedAtMs
    let s' ← s.insertCapability record receipt request.idempotencyKey requestDigest
    pure (s', .issued record receipt)

inductive CapabilityRevocationDecision where
  | revoked (receipt : CapabilityRevocationReceipt)
  | replayed (receipt : CapabilityRevocationReceipt)

def loadRevocationReplay (idempotencyKey : IdempotencyKey) (requestDigest : Digest) :
    Result (Option CapabilityRevocationReceipt) :=
  match s.revocationReceipts.find? (·.idempotencyKey = idempotencyKey) with
  | none => pure none
  | some row => do
    refuseIf (row.requestDigest ≠ requestDigest) .idempotencyConflict
    pure (some row.receipt)

def advanceHead (handle : CapabilityHandle) (nextGeneration : Generation) : List CapabilityHead :=
  updateRows
    (fun h => h.capabilityId = handle.capabilityId ∧ h.currentGeneration = handle.generation)
    (fun h => { h with currentGeneration := nextGeneration }) s.heads

def revokeImpl (request : RevokeCapabilityRequest) (proof : CommandSignatureProof) :
    Result (CapabilityAuthority × CapabilityRevocationDecision) := do
  let requestDigest := revokeRequestDigest request
  match ← s.loadRevocationReplay request.idempotencyKey requestDigest with
  | some replay => pure (s, .replayed replay)
  | none => do
    let record ← s.loadExactCurrent request.handle
    refuseIf (record.revokedAtMs.isSome) .capabilityRevoked
    let verified ← verifyCommandSignature identity proof (revokeCommandMessage request)
      request.revokedAtMs
    let revoker ← activeIdentity identity request.revokerKeyId request.revokedAtMs
    requireSignedBy verified revoker
    refuseIf (revoker.principalId ≠ record.issuer ∧ revoker.principalId ≠ record.holder)
      .revokerUnauthorized
    let nextGeneration ← orRefuse record.handle.generation.checkedNext .generationExhausted
    encodeU64 nextGeneration.val
    encodeU64 request.revokedAtMs
    let versions ← insertInto
      (fun v => v.capabilityId = record.handle.capabilityId ∧ v.generation = nextGeneration)
      ⟨record.handle.capabilityId, nextGeneration, some request.revokedAtMs⟩ s.versions
    refuseIf ((s.heads.countP fun h => h.capabilityId = record.handle.capabilityId ∧
      h.currentGeneration = request.handle.generation) ≠ 1) .generationFenceConflict
    let receipt : CapabilityRevocationReceipt := {
      receiptId := Sha256.taggedId "nlos/capability-revocation-receipt/id/v1"
        [requestDigest.bytes]
      capabilityId := request.handle.capabilityId
      priorGeneration := request.handle.generation
      resultingGeneration := nextGeneration
      revoker := revoker.principalId
      revokedAtMs := request.revokedAtMs }
    let revocationReceipts ← insertInto
      (fun r => r.idempotencyKey = request.idempotencyKey ∨ r.receipt.receiptId = receipt.receiptId)
      ⟨request.idempotencyKey, requestDigest, receipt⟩ s.revocationReceipts
    pure ({ s with heads := s.advanceHead request.handle nextGeneration, versions,
                   revocationReceipts }, .revoked receipt)

inductive CapabilityConsumptionDecision where
  | consumed (receipt : CapabilityConsumptionReceipt)
  | replayed (receipt : CapabilityConsumptionReceipt)

def loadConsumptionReplay (idempotencyKey : IdempotencyKey) (requestDigest : Digest) :
    Result (Option CapabilityConsumptionReceipt) :=
  match s.consumptionRows.find? (·.idempotencyKey = idempotencyKey) with
  | none => pure none
  | some row => do
    refuseIf (row.requestDigest ≠ requestDigest) .idempotencyConflict
    pure (some row.receipt)

def countConsumption (capabilityId : CapabilityId) : ℕ :=
  s.consumptionRows.countP fun row => row.receipt.capabilityId = capabilityId

def remainingAfterUse (used : ℕ) : Option U64 → Result (Option U64)
  | none => pure none
  | some limit =>
    if limit.val ≤ used then .error .callLimitExhausted
    else pure (some ⟨limit.val - used - 1, by omega⟩)

def consume (request : ConsumeCapabilityRequest) :
    Result (CapabilityAuthority × CapabilityConsumptionDecision) := do
  let requestDigest := consumeRequestDigest request
  match ← s.loadConsumptionReplay request.idempotencyKey requestDigest with
  | some replay => pure (s, .replayed replay)
  | none => do
    let record ← s.admitSemantic request.handle request.signer request.target
      request.requiredRight request.purposeDigest request.consumedAtMs
    let remaining ← remainingAfterUse (s.countConsumption record.handle.capabilityId)
      record.callLimit
    let receipt : CapabilityConsumptionReceipt := {
      receiptId := Sha256.taggedId "nlos/capability-consumption-receipt/id/v1"
        [record.handle.capabilityId.bytes, requestDigest.bytes]
      capabilityId := record.handle.capabilityId
      generation := record.handle.generation
      remaining := remaining
      consumedAtMs := request.consumedAtMs }
    encodeU64 record.handle.generation.val
    forSome receipt.remaining encodeU64
    encodeU64 request.consumedAtMs
    let consumptionRows ← insertInto
      (fun r => r.idempotencyKey = request.idempotencyKey ∨ r.receipt.receiptId = receipt.receiptId)
      ⟨request.idempotencyKey, requestDigest, receipt⟩ s.consumptionRows
    pure ({ s with consumptionRows }, .consumed receipt)

def callLimitRemaining (handle : CapabilityHandle) : Result (Option ℕ) := do
  let record ← s.loadExactCurrent handle
  pure (record.callLimit.map fun limit =>
    limit.val - s.countConsumption record.handle.capabilityId)

def inspectActive (handle : CapabilityHandle) (atMs : U64) : Result CapabilityRecord := do
  let record ← s.loadExactCurrent handle
  s.validateActiveChain record atMs
  pure record

end CapabilityAuthority

/-- A public call, with the answers the identity authority gives during it. -/
inductive CapabilityCall where
  | issueRootSigned (identity : IdentityAuthority) (request : IssueRootCapabilityRequest)
      (proof : CommandSignatureProof)
  | delegateSigned (identity : IdentityAuthority) (request : DelegateCapabilityRequest)
      (proof : CommandSignatureProof)
  | revokeSigned (identity : IdentityAuthority) (request : RevokeCapabilityRequest)
      (proof : CommandSignatureProof)
  | consume (request : ConsumeCapabilityRequest)
  | authorizeSemantic (request : AuthorizeSemanticRequest)
  | callLimitRemaining (handle : CapabilityHandle)
  | inspectActive (handle : CapabilityHandle) (atMs : U64)

inductive CapabilityAnswer where
  | issue (decision : CapabilityAuthority.CapabilityIssueDecision)
  | revocation (decision : CapabilityAuthority.CapabilityRevocationDecision)
  | consumption (decision : CapabilityAuthority.CapabilityConsumptionDecision)
  | authorization (authorization : CapabilityAuthority.SemanticAuthorization)
  | remaining (budget : Option ℕ)
  | active (record : CapabilityRecord)

def CapabilityAuthority.call (s : CapabilityAuthority) :
    CapabilityCall → Result (CapabilityAuthority × CapabilityAnswer)
  | .issueRootSigned identity request proof =>
    Prod.map id .issue <$> s.issueRootImpl identity request proof
  | .delegateSigned identity request proof =>
    Prod.map id .issue <$> s.delegateImpl identity request proof
  | .revokeSigned identity request proof =>
    Prod.map id .revocation <$> s.revokeImpl identity request proof
  | .consume request => Prod.map id .consumption <$> s.consume request
  | .authorizeSemantic request => (fun a => (s, .authorization a)) <$> s.authorizeSemantic request
  | .callLimitRemaining handle => (fun b => (s, .remaining b)) <$> s.callLimitRemaining handle
  | .inspectActive handle atMs => (fun r => (s, .active r)) <$> s.inspectActive handle atMs

def CapabilityAuthority.step (s : CapabilityAuthority) (call : CapabilityCall) :
    Except Empty (CapabilityAuthority × Result CapabilityAnswer) :=
  .ok (commit s (s.call call))

end Nlos.Capability
