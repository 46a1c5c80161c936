import Nlos.Lib.Guarded
import Nlos.Lib.Sha256

/-!
# Capabilities

The records and requests of the capability authority: what a capability allows, on which target,
for which purpose, when, how often and how far it may be delegated.
-/

namespace Nlos.Capability

open Lib

abbrev CapabilityId := Word 16
abbrev PrincipalId := Word 16
abbrev ControlDomainId := Word 16
abbrev KeyId := Word 16
abbrev NamespaceId := Word 16
abbrev TaskId := Word 16
abbrev ReceiptId := Word 16
abbrev IdempotencyKey := Word 16
abbrev Digest := Word 32
abbrev Ed25519Signature := Word 64
abbrev U64 := Word 8
abbrev Generation := { n : U64 // n ≠ 0 }

def Generation.initial : Generation := ⟨1, by decide⟩

def Generation.checkedNext (g : Generation) : Option Generation :=
  if h : g.val.val + 1 < 256 ^ 8 then
    some ⟨⟨g.val.val + 1, h⟩, Fin.ne_of_val_ne (Nat.succ_ne_zero _)⟩
  else none

inductive CapabilityTarget where
  | namespaced (namespaceId : NamespaceId)
  | task (taskId : TaskId)
deriving DecidableEq

def CapabilityTarget.kind : CapabilityTarget → UInt8
  | .namespaced _ => 1
  | .task _ => 2

def CapabilityTarget.bytes : CapabilityTarget → List UInt8
  | .namespaced namespaceId => namespaceId.bytes
  | .task taskId => taskId.bytes

/-- The loop of `namespace_prefix_len`: the first `n` bytes without the zeros they end in. -/
def prefixLen (bytes : List UInt8) : ℕ → ℕ
  | 0 => 0
  | n + 1 => if bytes.getD n 0 = 0 then prefixLen bytes n else n + 1

def namespacePrefixLen (namespaceId : NamespaceId) : ℕ := prefixLen namespaceId.bytes 16

def namespaceIsWithin (child ancestor : NamespaceId) : Bool :=
  child.bytes.take (namespacePrefixLen ancestor) = ancestor.bytes.take (namespacePrefixLen ancestor)

def targetIsWithin (requested granted : CapabilityTarget) : Bool :=
  match requested, granted with
  | .task requestedId, .task grantedId => requestedId = grantedId
  | .namespaced requestedId, .namespaced grantedId => namespaceIsWithin requestedId grantedId
  | _, _ => false

def allowedRights : UInt64 := 1 ||| 2 ||| 4 ||| 8

structure CapabilityRights where
  bits : UInt64
  allowed : bits ≠ 0 ∧ bits &&& ~~~allowedRights = 0
deriving DecidableEq

namespace CapabilityRights

def semanticAppend : CapabilityRights := ⟨1, by decide⟩

def delegate : CapabilityRights := ⟨8, by decide⟩

def contains (rights required : CapabilityRights) : Bool :=
  rights.bits &&& required.bits = required.bits

def isSubsetOf (rights parent : CapabilityRights) : Bool := parent.contains rights

end CapabilityRights

structure CapabilityHandle where
  capabilityId : CapabilityId
  generation : Generation
deriving DecidableEq

structure CapabilityTerms where
  issuer : PrincipalId
  issuerControlDomain : ControlDomainId
  holder : PrincipalId
  holderControlDomain : ControlDomainId
  target : CapabilityTarget
  rights : CapabilityRights
  purposeDigest : Option Digest
  (validFromMs validUntilMs : U64)
  delegationDepthRemaining : Word 1
  callLimit : Option U64
  parent : Option CapabilityHandle
deriving DecidableEq

structure CapabilityRecord extends CapabilityTerms where
  handle : CapabilityHandle
  revokedAtMs : Option U64
deriving DecidableEq

structure CapabilityIssueReceipt where
  receiptId : ReceiptId
  capabilityId : CapabilityId
  generation : Generation
  parent : Option CapabilityHandle
  issuedAtMs : U64
deriving DecidableEq

structure CapabilityRevocationReceipt where
  receiptId : ReceiptId
  capabilityId : CapabilityId
  (priorGeneration resultingGeneration : Generation)
  revoker : PrincipalId
  revokedAtMs : U64
deriving DecidableEq

structure CapabilityConsumptionReceipt where
  receiptId : ReceiptId
  capabilityId : CapabilityId
  generation : Generation
  remaining : Option U64
  consumedAtMs : U64
deriving DecidableEq

structure IssueRootCapabilityRequest where
  (issuerKeyId holderKeyId : KeyId)
  target : CapabilityTarget
  rights : CapabilityRights
  purposeDigest : Option Digest
  (validFromMs validUntilMs : U64)
  delegationDepthRemaining : Word 1
  callLimit : Option U64
  idempotencyKey : IdempotencyKey
  issuedAtMs : U64

structure DelegateCapabilityRequest where
  parent : CapabilityHandle
  (delegatorKeyId recipientKeyId : KeyId)
  target : CapabilityTarget
  rights : CapabilityRights
  purposeDigest : Option Digest
  (validFromMs validUntilMs : U64)
  delegationDepthRemaining : Word 1
  callLimit : Option U64
  idempotencyKey : IdempotencyKey
  delegatedAtMs : U64

structure RevokeCapabilityRequest where
  handle : CapabilityHandle
  revokerKeyId : KeyId
  idempotencyKey : IdempotencyKey
  revokedAtMs : U64

structure VerifiedSemanticSigner where
  principalId : PrincipalId
  controlDomainId : ControlDomainId
deriving DecidableEq

structure AuthorizeSemanticRequest where
  handle : CapabilityHandle
  signer : VerifiedSemanticSigner
  target : CapabilityTarget
  requiredRight : CapabilityRights
  purposeDigest : Option Digest
  admittedAtMs : U64
deriving DecidableEq

structure ConsumeCapabilityRequest where
  handle : CapabilityHandle
  signer : VerifiedSemanticSigner
  target : CapabilityTarget
  requiredRight : CapabilityRights
  purposeDigest : Option Digest
  idempotencyKey : IdempotencyKey
  consumedAtMs : U64

structure CommandSignatureProof where
  signer : PrincipalId
  signature : Ed25519Signature

inductive IdentityAuthorityError where
  | invalidSignature
  | principalNotFound (principalId : PrincipalId)
  | keyRevoked
  | other (reason : String)
deriving DecidableEq

structure IdentityBinding where
  principalId : PrincipalId
  controlDomainId : ControlDomainId
  keyId : KeyId
  (keyValidFromMs keyValidUntilMs : U64)
  keyRevokedAtMs : Option U64

structure VerifiedCapabilityCommandSigner where
  principalId : PrincipalId
  keyId : KeyId

structure IdentityAuthority where
  inspectCurrentBinding : KeyId → Except IdentityAuthorityError IdentityBinding
  verifyCapabilityCommandSignature : Digest → PrincipalId → Ed25519Signature → U64 →
    Except IdentityAuthorityError VerifiedCapabilityCommandSigner

inductive CapabilityAuthorityError where
  | sqlite
  | identity (e : IdentityAuthorityError)
  | capabilityNotFound (capabilityId : CapabilityId)
  | idempotencyConflict
  | invalidValidity
  | invalidCallLimit
  | identityKeyInactive (keyId : KeyId)
  | signatureInvalid
  | principalUnknown (principalId : PrincipalId)
  | keyRevoked
  | generationFenceConflict
  | capabilityRevoked
  | capabilityNotYetValid
  | capabilityExpired
  | ancestorRevokedOrFenced
  | delegatorMismatch
  | revokerUnauthorized
  | delegationNotAllowed
  | rightsAmplification
  | scopeAmplification
  | purposeAmplification
  | validityAmplification
  | callLimitAmplification
  | delegationDepthAmplification
  | holderMismatch
  | targetMismatch
  | requiredRightMissing
  | purposeMismatch
  | generationExhausted
  | callLimitExhausted
  | corruptRecord (reason : String)
deriving DecidableEq

/-- The fields of `hash_issue_fields`, in order. -/
def IssueRootCapabilityRequest.parts (r : IssueRootCapabilityRequest) : List (List UInt8) :=
  [r.issuerKeyId.bytes, r.holderKeyId.bytes, [r.target.kind], r.target.bytes,
    beBytes 8 r.rights.bits.toNat, optionBytes Word.bytes r.purposeDigest, r.validFromMs.bytes,
    r.validUntilMs.bytes, r.delegationDepthRemaining.bytes, optionBytes Word.bytes r.callLimit,
    r.idempotencyKey.bytes, r.issuedAtMs.bytes]

/-- The fields of `hash_delegate_fields`, in order. -/
def DelegateCapabilityRequest.parts (r : DelegateCapabilityRequest) : List (List UInt8) :=
  [r.parent.capabilityId.bytes, r.parent.generation.val.bytes, r.delegatorKeyId.bytes,
    r.recipientKeyId.bytes, [r.target.kind], r.target.bytes, beBytes 8 r.rights.bits.toNat,
    optionBytes Word.bytes r.purposeDigest, r.validFromMs.bytes, r.validUntilMs.bytes,
    r.delegationDepthRemaining.bytes, optionBytes Word.bytes r.callLimit, r.idempotencyKey.bytes,
    r.delegatedAtMs.bytes]

/-- The fields of `hash_revoke_fields`, in order. -/
def RevokeCapabilityRequest.parts (r : RevokeCapabilityRequest) : List (List UInt8) :=
  [r.handle.capabilityId.bytes, r.handle.generation.val.bytes, r.revokerKeyId.bytes,
    r.idempotencyKey.bytes, r.revokedAtMs.bytes]

def ConsumeCapabilityRequest.parts (r : ConsumeCapabilityRequest) : List (List UInt8) :=
  [r.handle.capabilityId.bytes, r.handle.generation.val.bytes, r.signer.principalId.bytes,
    [r.target.kind], r.target.bytes, beBytes 8 r.requiredRight.bits.toNat,
    optionBytes Word.bytes r.purposeDigest, r.idempotencyKey.bytes, r.consumedAtMs.bytes]

def commandMessageDomain : String := "nlos/capability/command/v1"

def issueRootCommandMessage (r : IssueRootCapabilityRequest) : Digest :=
  Sha256.tagged commandMessageDomain ([1] :: r.parts)

def delegateCommandMessage (r : DelegateCapabilityRequest) : Digest :=
  Sha256.tagged commandMessageDomain ([2] :: r.parts)

def revokeCommandMessage (r : RevokeCapabilityRequest) : Digest :=
  Sha256.tagged commandMessageDomain ([3] :: r.parts)

def rootRequestDigest (r : IssueRootCapabilityRequest) : Digest :=
  Sha256.tagged "nlos/capability-root-request/v1" r.parts

def delegateRequestDigest (r : DelegateCapabilityRequest) : Digest :=
  Sha256.tagged "nlos/capability-delegate-request/v1" r.parts

def revokeRequestDigest (r : RevokeCapabilityRequest) : Digest :=
  Sha256.tagged "nlos/capability-revoke-request/v1" r.parts

def consumeRequestDigest (r : ConsumeCapabilityRequest) : Digest :=
  Sha256.tagged "nlos/capability-consume-request/v1" r.parts

end Nlos.Capability
