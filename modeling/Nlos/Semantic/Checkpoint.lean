import Nlos.Lib.Merkle
import Nlos.Semantic.Merge

/-!
# Vector checkpoints

A checkpoint summarises a set of admitted events, one watermark for each origin domain: the number
of events, a tree hash of their identities and a digest of their admissions. Two checkpoints are
compared domain by domain.
-/

namespace Nlos.Semantic

open Lib Capability

def leafMessage (eventId : SemanticEventId) : List UInt8 :=
  "llmos/semantic-event-merkle-leaf/v1".toUTF8.toList ++ eventId.bytes

def nodeMessage (left : Digest) : Option Digest → List UInt8
  | some right =>
    "llmos/semantic-event-merkle-node/v1".toUTF8.toList ++ left.bytes ++ [2] ++ right.bytes
  | none => "llmos/semantic-event-merkle-node/v1".toUTF8.toList ++ left.bytes ++ [1]

def leaves (eventIds : List SemanticEventId) : List Digest :=
  (ascending eventIds).map fun eventId => Sha256.digest (leafMessage eventId)

def computeEventIdMerkleRoot (eventIds : List SemanticEventId) : Digest :=
  match leaves eventIds with
  | [] => Sha256.digest "llmos/semantic-event-merkle-empty/v1".toUTF8.toList
  | layer =>
    -- A layer of `n` digests is one digest after at most `n` steps.
    match Merkle.climb Sha256.digest nodeMessage layer.length layer with
    | root :: _ => root
    | [] => 0

def AdmissionReceipt.watermarkParts (admission : AdmissionReceipt) : List (List UInt8) :=
  [admission.eventId.bytes, admission.admittedAtMs.bytes,
    optionBytes Word.bytes admission.effectiveValidUntilMs,
    beBytes 8 admission.capturedInputs.length] ++ admission.capturedInputs.map Word.bytes ++
  [beBytes 8 admission.effectiveTaint.bits.toNat, admission.authzPolicyDigest.bytes, [2]]

def computeDomainAdmissionWatermarkDigest (authorityId : ControlDomainId)
    (admissions : List AdmissionReceipt) : Digest :=
  let ordered := sortByKey (fun receipt => toLex (receipt.admittedAtMs, receipt.eventId)) admissions
  let ordered := ordered.destutter fun receipt receipt' => receipt.eventId ≠ receipt'.eventId
  Sha256.tagged "llmos/semantic-watermark-admission/v1"
    ([authorityId.bytes, beBytes 8 ordered.length] ++
      ordered.flatMap AdmissionReceipt.watermarkParts)

structure DomainSemanticWaterMark where
  authorityId : ControlDomainId
  eventCount : ℕ
  (eventIdMerkleRoot latestAdmissionReceiptDigest trustSnapshotDigest : Digest)
deriving DecidableEq

def DomainSemanticWaterMark.parts (watermark : DomainSemanticWaterMark) : List (List UInt8) :=
  [watermark.authorityId.bytes, beBytes 8 watermark.eventCount,
    watermark.eventIdMerkleRoot.bytes, watermark.latestAdmissionReceiptDigest.bytes,
    watermark.trustSnapshotDigest.bytes]

def computeVectorCheckpointDigest (domainWatermarks : List DomainSemanticWaterMark)
    (coveredEventIdsRoot : Digest) : Digest :=
  Sha256.tagged "llmos/semantic-vector-checkpoint/v1"
    ([beBytes 8 domainWatermarks.length] ++
      domainWatermarks.flatMap DomainSemanticWaterMark.parts ++ [coveredEventIdsRoot.bytes])

structure SemanticVectorCheckpoint where
  checkpointId : Word 16
  domainWatermarks : List DomainSemanticWaterMark
  (coveredEventIdsRoot checkpointDigest : Digest)
deriving DecidableEq

inductive SemanticVectorCheckpointError where
  | missingTrustSnapshot
deriving DecidableEq

def domainWatermark (trustSnapshotDigest : Digest) (authorityId : ControlDomainId)
    (items : List SignedEventSetItem) : DomainSemanticWaterMark :=
  let domainEventIds := ascending (items.map fun item => item.event.eventId)
  let domainItems := earliest (fun item => item.event.eventId) items
  { authorityId := authorityId
    eventCount := domainEventIds.length
    eventIdMerkleRoot := computeEventIdMerkleRoot domainEventIds
    latestAdmissionReceiptDigest := computeDomainAdmissionWatermarkDigest authorityId
      (domainItems.map SignedEventSetItem.admission)
    trustSnapshotDigest := trustSnapshotDigest }

def buildVectorCheckpoint (items : List SignedEventSetItem) (trustSnapshotDigest : Digest) :
    Except SemanticVectorCheckpointError SemanticVectorCheckpoint :=
  if trustSnapshotDigest = 0 then .error .missingTrustSnapshot
  else
    let domainWatermarks := (groups (fun item => item.event.controlDomain) items).map fun group =>
      domainWatermark trustSnapshotDigest group.1 group.2
    let coveredEventIdsRoot := computeEventIdMerkleRoot (items.map fun item => item.event.eventId)
    let checkpointDigest := computeVectorCheckpointDigest domainWatermarks coveredEventIdsRoot
    .ok {
      checkpointId := Word.ofBytes 16 (checkpointDigest.bytes.take 16)
      domainWatermarks := domainWatermarks
      coveredEventIdsRoot := coveredEventIdsRoot
      checkpointDigest := checkpointDigest }

inductive VectorCheckpointRelation where
  | equal
  | localAhead
  | remoteAhead
  | concurrent
deriving DecidableEq

structure DomainWatermarkDiff where
  authorityId : ControlDomainId
  relation : VectorCheckpointRelation
  (localEventCount remoteEventCount : ℕ)
  (localMerkleRoot remoteMerkleRoot : Option Digest)
deriving DecidableEq

structure VectorCheckpointDiff where
  relation : VectorCheckpointRelation
  domainDiffs : List DomainWatermarkDiff
  (localAheadDomains remoteAheadDomains concurrentDomains : List ControlDomainId)
deriving DecidableEq

namespace SemanticVectorCheckpoint

/-- The watermark of a domain; a later one replaces an earlier one. -/
def watermark? (checkpoint : SemanticVectorCheckpoint) (authorityId : ControlDomainId) :
    Option DomainSemanticWaterMark :=
  checkpoint.domainWatermarks.reverse.find? fun watermark => watermark.authorityId = authorityId

end SemanticVectorCheckpoint

def watermarkRelation (l r : DomainSemanticWaterMark) : VectorCheckpointRelation :=
  if l.eventCount = r.eventCount ∧ l.eventIdMerkleRoot = r.eventIdMerkleRoot ∧
      l.latestAdmissionReceiptDigest = r.latestAdmissionReceiptDigest then .equal
  else if r.eventCount < l.eventCount then .localAhead
  else if l.eventCount < r.eventCount then .remoteAhead
  else .concurrent

/-- The comparison of one domain; a domain without any watermark does not occur. -/
def diffDomain (authorityId : ControlDomainId) (l r : Option DomainSemanticWaterMark) :
    Option DomainWatermarkDiff :=
  match l, r with
  | some l, some r => some ⟨authorityId, watermarkRelation l r, l.eventCount, r.eventCount,
      some l.eventIdMerkleRoot, some r.eventIdMerkleRoot⟩
  | some l, none =>
    some ⟨authorityId, .localAhead, l.eventCount, 0, some l.eventIdMerkleRoot, none⟩
  | none, some r =>
    some ⟨authorityId, .remoteAhead, 0, r.eventCount, none, some r.eventIdMerkleRoot⟩
  | none, none => none

def domainsWith (relation : VectorCheckpointRelation) (domainDiffs : List DomainWatermarkDiff) :
    List ControlDomainId :=
  (domainDiffs.filter fun diff => diff.relation = relation).map DomainWatermarkDiff.authorityId

def diffVectorCheckpoints (l r : SemanticVectorCheckpoint) : VectorCheckpointDiff :=
  let allAuthorities := ascending
    (l.domainWatermarks.map DomainSemanticWaterMark.authorityId ++
      r.domainWatermarks.map DomainSemanticWaterMark.authorityId)
  let domainDiffs := allAuthorities.filterMap fun authorityId =>
    diffDomain authorityId (l.watermark? authorityId) (r.watermark? authorityId)
  let localAheadDomains := domainsWith .localAhead domainDiffs
  let remoteAheadDomains := domainsWith .remoteAhead domainDiffs
  let concurrentDomains := domainsWith .concurrent domainDiffs
  { relation :=
      if concurrentDomains ≠ [] ∨ (localAheadDomains ≠ [] ∧ remoteAheadDomains ≠ []) then
        .concurrent
      else if localAheadDomains ≠ [] then .localAhead
      else if remoteAheadDomains ≠ [] then .remoteAhead
      else if l.coveredEventIdsRoot = r.coveredEventIdsRoot then .equal
      else .concurrent
    domainDiffs := domainDiffs
    localAheadDomains := localAheadDomains
    remoteAheadDomains := remoteAheadDomains
    concurrentDomains := concurrentDomains }

end Nlos.Semantic
