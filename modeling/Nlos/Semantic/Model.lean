import Nlos.Capability.Model

/-!
# Semantic events

The records of the semantic authority that travel between stores: signed events and the receipts
of their admission.
-/

namespace Nlos.Semantic

open Lib Capability

abbrev SemanticEventId := Word 32

/-- Labels that restrict the use of an event. -/
structure TaintFlags where
  bits : UInt64
  allowed : bits &&& ~~~(1 ||| 2 ||| 4) = 0
deriving DecidableEq

namespace TaintFlags

def empty : TaintFlags := ⟨0, by decide⟩

end TaintFlags

inductive SemanticPayloadIdentity where
  | assertionContent (digest : Digest)
  | intentSpecBody (digest : Digest)
  | structural
deriving DecidableEq

structure SemanticEventRecord where
  eventId : SemanticEventId
  canonicalUnsignedEvent : List UInt8
  scope : CapabilityTarget
  issuer : PrincipalId
  controlDomain : ControlDomainId
  keyId : KeyId
  payloadIdentity : SemanticPayloadIdentity
  logSeq : U64
deriving DecidableEq

inductive AdmissionDurability where
  | durable
deriving DecidableEq

structure AdmissionReceipt where
  receiptId : ReceiptId
  eventId : SemanticEventId
  (logSeq admittedAtMs : U64)
  effectiveValidUntilMs : Option U64
  capturedInputs : List SemanticEventId
  effectiveTaint : TaintFlags
  authzPolicyDigest : Digest
  durability : AdmissionDurability
  storePrincipal : PrincipalId
  storeControlDomain : ControlDomainId
  storeKeyId : KeyId
  storeSignature : Ed25519Signature
deriving DecidableEq

def semanticEventId (canonicalUnsignedEvent : List UInt8) : SemanticEventId :=
  Sha256.tagged "llmos/semantic-event/v1" [canonicalUnsignedEvent]

/-- The fields a receipt identity is derived from, in order. -/
def AdmissionReceipt.coreParts (receipt : AdmissionReceipt) : List (List UInt8) :=
  [receipt.eventId.bytes, receipt.logSeq.bytes, receipt.admittedAtMs.bytes,
    optionBytes Word.bytes receipt.effectiveValidUntilMs,
    beBytes 8 receipt.capturedInputs.length] ++ receipt.capturedInputs.map Word.bytes ++
  [beBytes 8 receipt.effectiveTaint.bits.toNat, receipt.authzPolicyDigest.bytes, [2],
    receipt.storePrincipal.bytes, receipt.storeControlDomain.bytes, receipt.storeKeyId.bytes]

def admissionReceiptCoreDigest (receipt : AdmissionReceipt) : Digest :=
  Sha256.tagged "llmos/admission-receipt/v1" receipt.coreParts

def deriveReceiptId (receipt : AdmissionReceipt) : ReceiptId :=
  Word.ofBytes 16 ((admissionReceiptCoreDigest receipt).bytes.take 16)

def AdmissionReceipt.withDerivedId (receipt : AdmissionReceipt) : AdmissionReceipt :=
  { receipt with receiptId := deriveReceiptId receipt }

lemma AdmissionReceipt.coreParts_withDerivedId (receipt : AdmissionReceipt) :
    receipt.withDerivedId.coreParts = receipt.coreParts := by
  simp only [coreParts, withDerivedId]

lemma AdmissionReceipt.receiptId_withDerivedId (receipt : AdmissionReceipt) :
    receipt.withDerivedId.receiptId = deriveReceiptId receipt := by
  simp only [withDerivedId]

lemma AdmissionReceipt.deriveReceiptId_withDerivedId (receipt : AdmissionReceipt) :
    deriveReceiptId receipt.withDerivedId = receipt.withDerivedId.receiptId := by
  rw [receiptId_withDerivedId, deriveReceiptId, deriveReceiptId, admissionReceiptCoreDigest,
    admissionReceiptCoreDigest, coreParts_withDerivedId]

end Nlos.Semantic
