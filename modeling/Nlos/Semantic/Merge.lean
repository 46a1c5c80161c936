import Nlos.Lib.Grouped
import Nlos.Semantic.Model

/-!
# Merging signed event sets

Two sets of signed events with their admission observations are merged into one. Items that fail
their own integrity checks are rejected. The others are grouped by event; within a group the
observations that contradict each other are excluded and reported, and the rest is kept.
-/

namespace Nlos.Semantic

open Lib Capability

inductive SignedEventSetOrigin where
  | first
  | second
deriving DecidableEq

def SignedEventSetOrigin.rank : SignedEventSetOrigin → ℕ
  | .first => 0
  | .second => 1

inductive SignedEventSetRejection where
  | eventIdMismatch (origin : SignedEventSetOrigin)
      (claimedEventId derivedEventId : SemanticEventId)
  | admissionEventBinding (origin : SignedEventSetOrigin)
      (eventId admissionEventId : SemanticEventId)
  | admissionLogSeqBinding (origin : SignedEventSetOrigin) (eventId : SemanticEventId)
      (eventLogSeq admissionLogSeq : U64)
  | admissionReceiptIdDerivation (origin : SignedEventSetOrigin) (eventId : SemanticEventId)
      (claimedReceiptId derivedReceiptId : ReceiptId)
  | missingTrustSnapshot (origin : SignedEventSetOrigin) (eventId : SemanticEventId)
      (receiptId : ReceiptId)
  | invalidProducerSignature (origin : SignedEventSetOrigin) (eventId : SemanticEventId)
      (keyId : KeyId)
  | producerSignatureConflict (eventId : SemanticEventId)
  | eventWithoutValidAdmission (eventId : SemanticEventId)
deriving DecidableEq

def SignedEventSetRejection.orderKey : SignedEventSetRejection → SemanticEventId ×ₗ ℕ ×ₗ ℕ
  | .eventIdMismatch origin claimedEventId _ => toLex (claimedEventId, toLex (origin.rank, 0))
  | .admissionEventBinding origin eventId _ => toLex (eventId, toLex (origin.rank, 1))
  | .admissionLogSeqBinding origin eventId _ _ => toLex (eventId, toLex (origin.rank, 2))
  | .admissionReceiptIdDerivation origin eventId _ _ => toLex (eventId, toLex (origin.rank, 3))
  | .missingTrustSnapshot origin eventId _ => toLex (eventId, toLex (origin.rank, 4))
  | .invalidProducerSignature origin eventId _ => toLex (eventId, toLex (origin.rank, 5))
  | .producerSignatureConflict eventId => toLex (eventId, toLex (2, 6))
  | .eventWithoutValidAdmission eventId => toLex (eventId, toLex (2, 7))

structure AdmissionConflictOccurrence where
  origin : SignedEventSetOrigin
  receiptId : ReceiptId
deriving DecidableEq

instance : LinearOrder AdmissionConflictOccurrence :=
  LinearOrder.lift' (fun o => toLex (o.origin.rank, o.receiptId)) <| by
    rintro ⟨o, r⟩ ⟨o', r'⟩ h
    obtain ⟨hrank, hreceipt⟩ := Prod.mk.inj (toLex.injective h)
    cases o <;> cases o' <;> simp_all [SignedEventSetOrigin.rank]

inductive SignedEventSetConflict where
  | admissionReceiptContent (receiptId : ReceiptId) (occurrences : List AdmissionConflictOccurrence)
  | duplicateStoreAdmission (eventId : SemanticEventId)
      (occurrences : List AdmissionConflictOccurrence)
  | producerSignatureMismatch (eventId : SemanticEventId)
      (occurrences : List AdmissionConflictOccurrence)
  | trustSnapshotConflict (receiptId : ReceiptId) (occurrences : List AdmissionConflictOccurrence)
deriving DecidableEq

namespace SignedEventSetConflict

def occurrences : SignedEventSetConflict → List AdmissionConflictOccurrence
  | .admissionReceiptContent _ occurrences => occurrences
  | .duplicateStoreAdmission _ occurrences => occurrences
  | .producerSignatureMismatch _ occurrences => occurrences
  | .trustSnapshotConflict _ occurrences => occurrences

def receiptKey (receiptId : ReceiptId) : Word 32 :=
  Word.ofBytes 32 (receiptId.bytes ++ List.replicate 16 0)

def orderKey : SignedEventSetConflict → ℕ ×ₗ Word 32
  | .admissionReceiptContent receiptId _ => toLex (0, receiptKey receiptId)
  | .duplicateStoreAdmission eventId _ => toLex (1, eventId)
  | .producerSignatureMismatch eventId _ => toLex (2, eventId)
  | .trustSnapshotConflict receiptId _ => toLex (3, receiptKey receiptId)

end SignedEventSetConflict

structure MergeReport (μ : Type) where
  merged : List μ
  rejections : List SignedEventSetRejection
  conflicts : List SignedEventSetConflict

structure GroupReport (μ : Type) where
  merged : Option μ
  rejections : List SignedEventSetRejection
  conflicts : List SignedEventSetConflict

section Items

variable {ι μ : Type} (validate : SignedEventSetOrigin → ι → Except SignedEventSetRejection Unit)
  (eventIdOf : ι → SemanticEventId)
  (mergeGroup : SemanticEventId → List (SignedEventSetOrigin × ι) → GroupReport μ)

def itemsOf (first second : List ι) : List (SignedEventSetOrigin × ι) :=
  first.map (.first, ·) ++ second.map (.second, ·)

def acceptedOf (items : List (SignedEventSetOrigin × ι)) : List (SignedEventSetOrigin × ι) :=
  items.filter fun item => (validate item.1 item.2).isOk

def rejectedOf (items : List (SignedEventSetOrigin × ι)) : List SignedEventSetRejection :=
  items.filterMap fun item =>
    match validate item.1 item.2 with
    | .ok () => none
    | .error rejection => some rejection

def groupReports (items : List (SignedEventSetOrigin × ι)) : List (GroupReport μ) :=
  (groups (fun item => eventIdOf item.2) (acceptedOf validate items)).map fun group =>
    mergeGroup group.1 group.2

/-- The two phases that both merges share: check every item, then merge event by event. -/
def mergeItems (first second : List ι) : MergeReport μ :=
  let items := itemsOf first second
  let reports := groupReports validate eventIdOf mergeGroup items
  { merged := reports.filterMap GroupReport.merged
    rejections := sortByKey SignedEventSetRejection.orderKey
      (rejectedOf validate items ++ reports.flatMap GroupReport.rejections)
    conflicts := sortByKey SignedEventSetConflict.orderKey (reports.flatMap GroupReport.conflicts) }

end Items

def validateEventAndAdmission (origin : SignedEventSetOrigin) (event : SemanticEventRecord)
    (admission : AdmissionReceipt) : Except SignedEventSetRejection Unit := do
  let derivedEventId := semanticEventId event.canonicalUnsignedEvent
  refuseIf (derivedEventId ≠ event.eventId)
    (.eventIdMismatch origin event.eventId derivedEventId)
  refuseIf (admission.eventId ≠ event.eventId)
    (.admissionEventBinding origin event.eventId admission.eventId)
  refuseIf (admission.logSeq ≠ event.logSeq)
    (.admissionLogSeqBinding origin event.eventId event.logSeq admission.logSeq)
  let derivedReceiptId := deriveReceiptId admission
  refuseIf (derivedReceiptId ≠ admission.receiptId)
    (.admissionReceiptIdDerivation origin event.eventId admission.receiptId derivedReceiptId)

abbrev StoreTriple := PrincipalId ×ₗ ControlDomainId ×ₗ KeyId

def storeTriple (receipt : AdmissionReceipt) : StoreTriple :=
  toLex (receipt.storePrincipal, toLex (receipt.storeControlDomain, receipt.storeKeyId))

section Observations

variable {ι : Type} (admission : ι → AdmissionReceipt)
  (receiptConflict : ReceiptId → List (SignedEventSetOrigin × ι) → Option SignedEventSetConflict)

def occurrencesOf (receiptId : ReceiptId) (observations : List (SignedEventSetOrigin × ι)) :
    List AdmissionConflictOccurrence :=
  ascending (observations.map fun observation => ⟨observation.1, receiptId⟩)

/-- The items of a group that carry a receipt identity. -/
def observationsOf (items : List (SignedEventSetOrigin × ι)) (receiptId : ReceiptId) :
    List (SignedEventSetOrigin × ι) :=
  items.filter fun item => (admission item.2).receiptId = receiptId

def receiptFindings (items : List (SignedEventSetOrigin × ι)) :
    List (ReceiptId × SignedEventSetConflict) :=
  (groups (fun item => (admission item.2).receiptId) items).filterMap fun group =>
    (receiptConflict group.1 group.2).map (group.1, ·)

def storeFindings (eventId : SemanticEventId) (items : List (SignedEventSetOrigin × ι)) :
    List (List ReceiptId × SignedEventSetConflict) :=
  (groups (fun item => storeTriple (admission item.2)) items).filterMap fun group =>
    let receiptIds := ascending (group.2.map fun item => (admission item.2).receiptId)
    if 1 < receiptIds.length then
      some (receiptIds, .duplicateStoreAdmission eventId (ascending
        (receiptIds.flatMap fun receiptId =>
          (observationsOf admission items receiptId).map fun item => ⟨item.1, receiptId⟩)))
    else none

/-- The receipt identities that take part in a conflict. -/
def implicatedOf (eventId : SemanticEventId) (items : List (SignedEventSetOrigin × ι)) :
    List ReceiptId :=
  (receiptFindings admission receiptConflict items).map Prod.fst ++
    (storeFindings admission eventId items).flatMap Prod.fst

def conflictsOf (eventId : SemanticEventId) (items : List (SignedEventSetOrigin × ι)) :
    List SignedEventSetConflict :=
  (receiptFindings admission receiptConflict items).map Prod.snd ++
    (storeFindings admission eventId items).map Prod.snd

/-- The observations that no conflict excludes, one for each receipt identity. -/
def survivorsOf (eventId : SemanticEventId) (items : List (SignedEventSetOrigin × ι)) :
    List (SignedEventSetOrigin × ι) :=
  latest (fun item => (admission item.2).receiptId) (items.filter fun item =>
    (admission item.2).receiptId ∉ implicatedOf admission receiptConflict eventId items)

end Observations

structure SignedEventSetItem where
  event : SemanticEventRecord
  admission : AdmissionReceipt
deriving DecidableEq

structure MergedSignedEvent where
  eventId : SemanticEventId
  canonicalUnsignedEvent : List UInt8
  scope : CapabilityTarget
  issuer : PrincipalId
  controlDomain : ControlDomainId
  keyId : KeyId
  payloadIdentity : SemanticPayloadIdentity
  admissions : List AdmissionReceipt
deriving DecidableEq

abbrev SignedEventSetMergeReport := MergeReport MergedSignedEvent

def validateItem (origin : SignedEventSetOrigin) (item : SignedEventSetItem) :
    Except SignedEventSetRejection Unit :=
  validateEventAndAdmission origin item.event item.admission

def contentConflict (receiptId : ReceiptId)
    (observations : List (SignedEventSetOrigin × SignedEventSetItem)) :
    Option SignedEventSetConflict :=
  match observations with
  | [] => none
  | (_, reference) :: _ =>
    if ∃ observation ∈ observations, observation.2.admission ≠ reference.admission then
      some (.admissionReceiptContent receiptId (occurrencesOf receiptId observations))
    else none

def mergeEventGroup (eventId : SemanticEventId)
    (items : List (SignedEventSetOrigin × SignedEventSetItem)) : GroupReport MergedSignedEvent :=
  match items with
  | [] => ⟨none, [], []⟩
  | (_, first) :: _ =>
    if ∃ item ∈ items,
        item.2.event.canonicalUnsignedEvent ≠ first.event.canonicalUnsignedEvent then
      -- Two contents under one identity: neither is picked.
      ⟨none, items.map fun item => .eventIdMismatch item.1 eventId
        (semanticEventId item.2.event.canonicalUnsignedEvent), []⟩
    else
      let conflicts :=
        conflictsOf SignedEventSetItem.admission contentConflict eventId items
      match survivorsOf SignedEventSetItem.admission contentConflict eventId items with
      | [] => ⟨none, [.eventWithoutValidAdmission eventId], conflicts⟩
      | surviving =>
        let event := first.event
        ⟨some {
            eventId := eventId
            canonicalUnsignedEvent := event.canonicalUnsignedEvent
            scope := event.scope
            issuer := event.issuer
            controlDomain := event.controlDomain
            keyId := event.keyId
            payloadIdentity := event.payloadIdentity
            admissions := surviving.map fun item => item.2.admission },
          [], conflicts⟩

def mergeSignedEventSets (first second : List SignedEventSetItem) : SignedEventSetMergeReport :=
  mergeItems validateItem (fun item => item.event.eventId) mergeEventGroup first second

structure CrossDomainEventItem where
  event : SemanticEventRecord
  producerSignature : Ed25519Signature
  admission : AdmissionReceipt
  trustSnapshotDigest : Digest
deriving DecidableEq

structure CrossDomainAuditRecord where
  producerKeyId : KeyId
  producerSignature : Ed25519Signature
  admission : AdmissionReceipt
  trustSnapshotDigest : Digest
deriving DecidableEq

structure MergedCrossDomainEvent where
  eventId : SemanticEventId
  canonicalUnsignedEvent : List UInt8
  scope : CapabilityTarget
  issuer : PrincipalId
  controlDomain : ControlDomainId
  keyId : KeyId
  payloadIdentity : SemanticPayloadIdentity
  producerSignature : Ed25519Signature
  admissions : List AdmissionReceipt
  auditRecords : List CrossDomainAuditRecord
deriving DecidableEq

abbrev CrossDomainEventSetMergeReport := MergeReport MergedCrossDomainEvent

structure VerifySemanticSignatureRequest where
  eventId : SemanticEventId
  issuer : PrincipalId
  controlDomainId : ControlDomainId
  keyId : KeyId
  signature : Ed25519Signature
  admittedAtMs : U64

/-- Which producer signatures the identity authority accepts. -/
abbrev SignatureVerifier := VerifySemanticSignatureRequest → Bool

def CrossDomainEventItem.signatureRequest (item : CrossDomainEventItem) :
    VerifySemanticSignatureRequest where
  eventId := item.event.eventId
  issuer := item.event.issuer
  controlDomainId := item.event.controlDomain
  keyId := item.event.keyId
  signature := item.producerSignature
  admittedAtMs := item.admission.admittedAtMs

def validateCrossDomainItem (identity : Option SignatureVerifier) (origin : SignedEventSetOrigin)
    (item : CrossDomainEventItem) : Except SignedEventSetRejection Unit := do
  validateEventAndAdmission origin item.event item.admission
  refuseIf (item.trustSnapshotDigest = 0)
    (.missingTrustSnapshot origin item.event.eventId item.admission.receiptId)
  refuseIf (item.producerSignature = 0)
    (.invalidProducerSignature origin item.event.eventId item.event.keyId)
  forSome identity fun verify =>
    refuseIf (¬ verify item.signatureRequest)
      (.invalidProducerSignature origin item.event.eventId item.event.keyId)

def crossDomainConflict (receiptId : ReceiptId)
    (observations : List (SignedEventSetOrigin × CrossDomainEventItem)) :
    Option SignedEventSetConflict :=
  match observations with
  | [] => none
  | (_, reference) :: _ =>
    if ∃ observation ∈ observations, observation.2.admission ≠ reference.admission then
      some (.admissionReceiptContent receiptId (occurrencesOf receiptId observations))
    else if ∃ observation ∈ observations,
        observation.2.trustSnapshotDigest ≠ reference.trustSnapshotDigest then
      some (.trustSnapshotConflict receiptId (occurrencesOf receiptId observations))
    else none

def mergeCrossDomainEventGroup (eventId : SemanticEventId)
    (items : List (SignedEventSetOrigin × CrossDomainEventItem)) :
    GroupReport MergedCrossDomainEvent :=
  match items with
  | [] => ⟨none, [], []⟩
  | (_, first) :: _ =>
    if ∃ item ∈ items,
        item.2.event.canonicalUnsignedEvent ≠ first.event.canonicalUnsignedEvent then
      ⟨none, items.map fun item => .eventIdMismatch item.1 eventId
        (semanticEventId item.2.event.canonicalUnsignedEvent), []⟩
    else if ∃ item ∈ items, item.2.producerSignature ≠ first.producerSignature then
      ⟨none, [.producerSignatureConflict eventId], [.producerSignatureMismatch eventId
          (ascending (items.map fun item => ⟨item.1, item.2.admission.receiptId⟩))]⟩
    else
      let conflicts :=
        conflictsOf CrossDomainEventItem.admission crossDomainConflict eventId items
      match survivorsOf CrossDomainEventItem.admission crossDomainConflict eventId items with
      | [] => ⟨none, [.eventWithoutValidAdmission eventId], conflicts⟩
      | surviving =>
        let event := first.event
        ⟨some {
            eventId := eventId
            canonicalUnsignedEvent := event.canonicalUnsignedEvent
            scope := event.scope
            issuer := event.issuer
            controlDomain := event.controlDomain
            keyId := event.keyId
            payloadIdentity := event.payloadIdentity
            producerSignature := first.producerSignature
            admissions := surviving.map fun item => item.2.admission
            auditRecords := surviving.map fun item => {
              producerKeyId := event.keyId
              producerSignature := first.producerSignature
              admission := item.2.admission
              trustSnapshotDigest := item.2.trustSnapshotDigest } },
          [], conflicts⟩

def mergeCrossDomainInner (identity : Option SignatureVerifier)
    (first second : List CrossDomainEventItem) : CrossDomainEventSetMergeReport :=
  mergeItems (validateCrossDomainItem identity) (fun item => item.event.eventId)
    mergeCrossDomainEventGroup first second

def mergeCrossDomainEventSets (first second : List CrossDomainEventItem) :
    CrossDomainEventSetMergeReport :=
  mergeCrossDomainInner none first second

end Nlos.Semantic
