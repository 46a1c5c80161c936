import Nlos.Consensus.Command
import Nlos.Lib.Sha256

/-!
# The canonical command body

A proposal is stored and sent as its family code, its idempotency key and a body with a sub-tag and
fixed-width big-endian fields.
-/

namespace Nlos.Consensus

open Lib

inductive ForbiddenDataPlaneKind where
  | taskExecutionMutation
  | fiberScheduleEvent
  | topicMessagePublish
  | semanticEventAppend
  | artifactBulkPayload
  | unknownNonControlFamily (tag : UInt8)
deriving DecidableEq

structure RejectDataPlanePayload where
  kind : ForbiddenDataPlaneKind
  wireTag : UInt8
  reason : String
deriving DecidableEq

inductive ScopeViolationError where
  | rejectDataPlanePayload (reject : RejectDataPlanePayload)
  | malformedWireHeader
  | truncatedPayload
  | trailingBytes
  | invalidNominalField (field : String)
  | payloadChecksumMismatch
deriving DecidableEq

def CommandFamilyCode.fromWireTag (tag : UInt8) : Except RejectDataPlanePayload CommandFamilyCode :=
  match tag with
  | 1 => .ok .cellDirectory
  | 2 => .ok .rootLeasePool
  | 3 => .ok .taskAuthorityShard
  | 4 => .ok .controlPlaneAudit
  | 0x81 => .error ⟨.taskExecutionMutation, tag, "[CONS-SCOPE-001] high-frequency " ++
      "Task/CommitPermit data-plane mutation is forbidden in control-plane consensus"⟩
  | 0x82 => .error ⟨.fiberScheduleEvent, tag, "[CONS-SCOPE-001] Fiber/Worker scheduling " ++
      "hot-path payload is forbidden in control-plane consensus"⟩
  | 0x83 => .error ⟨.topicMessagePublish, tag, "[CONS-SCOPE-001] Topic/Channel message " ++
      "ordering is forbidden in control-plane consensus"⟩
  | 0x84 => .error ⟨.semanticEventAppend, tag, "[CONS-SCOPE-001] SemanticEvent data-plane " ++
      "append is forbidden in control-plane consensus"⟩
  | 0x85 => .error ⟨.artifactBulkPayload, tag, "[CONS-SCOPE-001] Artifact content/revision " ++
      "data-plane payload is forbidden in control-plane consensus"⟩
  | other => .error ⟨.unknownNonControlFamily other, other, "[CONS-SCOPE-001] " ++
      "non-control-plane wire tag is forbidden in nlos-consensus"⟩

@[simp] lemma CommandFamilyCode.fromWireTag_asU8 (family : CommandFamilyCode) :
    CommandFamilyCode.fromWireTag family.asU8 = .ok family := by
  cases family <;> rfl

def ReplicatedQuotaLeaseDisposition.asU8 : ReplicatedQuotaLeaseDisposition → UInt8
  | .active => 1
  | .closed => 2
  | .quarantined => 3

def ReplicatedQuotaLeaseDisposition.fromU8 (v : UInt8) : Option ReplicatedQuotaLeaseDisposition :=
  match v with
  | 1 => some .active
  | 2 => some .closed
  | 3 => some .quarantined
  | _ => none

instance : ByteTag ReplicatedQuotaLeaseDisposition where
  toByte := ReplicatedQuotaLeaseDisposition.asU8
  ofByte := ReplicatedQuotaLeaseDisposition.fromU8
  ofByte_toByte v := by cases v <;> rfl

def ReplicatedDeviceHeadState.asU8 : ReplicatedDeviceHeadState → UInt8
  | .free => 1
  | .active => 2
  | .quarantined => 3

def ReplicatedDeviceHeadState.fromU8 (v : UInt8) : Option ReplicatedDeviceHeadState :=
  match v with
  | 1 => some .free
  | 2 => some .active
  | 3 => some .quarantined
  | _ => none

instance : ByteTag ReplicatedDeviceHeadState where
  toByte := ReplicatedDeviceHeadState.asU8
  ofByte := ReplicatedDeviceHeadState.fromU8
  ofByte_toByte v := by cases v <;> rfl

/-- The encoding of an endpoint hint keeps only the address and the port. -/
def encodeSocketAddrOpt : Option SocketAddr → List UInt8
  | none => [0]
  | some (.v4 ip port) => [4] ++ ip.bytes ++ port.bytes
  | some (.v6 ip port _ _) => [6] ++ ip.bytes ++ port.bytes

section Cursor

variable {ε : Type} (short : ε)

/-- An endpoint hint; a decoded IPv6 address has no flow information and no scope. -/
def cursorSocketAddrOpt (bad : ε) : Reader ε (Option SocketAddr) := do
  let tag ← readByte short
  match tag with
  | 0 => pure none
  | 4 => do
    let ip ← readWord short 4
    let port ← readWord short 2
    pure (some (.v4 ip port))
  | 6 => do
    let ip ← readWord short 16
    let port ← readWord short 2
    pure (some (.v6 ip port 0 0))
  | _ => throw bad

end Cursor

abbrev CommandReader := Reader ScopeViolationError

abbrev readU8 : CommandReader UInt8 := readByte .truncatedPayload
abbrev readU64 : CommandReader U64 := readWord .truncatedPayload 8
abbrev read16 : CommandReader (Word 16) := readWord .truncatedPayload 16
abbrev read32 : CommandReader (Word 32) := readWord .truncatedPayload 32
abbrev readCellId : CommandReader CellIdentity := read16

abbrev readNonzeroU64 (field : String) : CommandReader NonZeroU64 :=
  readNonzero .truncatedPayload (.invalidNominalField field) 8

abbrev readGeneration (field : String) : CommandReader Generation := readNonzeroU64 field
abbrev readCellEpoch (field : String) : CommandReader CellEpoch := readNonzeroU64 field
abbrev readFencingToken (field : String) : CommandReader CellFencingToken :=
  readNonzeroU64 field

abbrev readSocketAddrOpt : CommandReader (Option SocketAddr) :=
  cursorSocketAddrOpt .truncatedPayload (.invalidNominalField "SocketAddr family tag")

def CellDirectoryCommand.encodeBody : CellDirectoryCommand → List UInt8
  | .upsertCellEndpoint cell controlDomainId principalId nodeBootGeneration epoch heartbeatSeq
      endpointHint =>
      [1] ++ cell.bytes ++ controlDomainId.bytes ++ principalId.bytes ++
        nodeBootGeneration.val.bytes ++ epoch.val.bytes ++ heartbeatSeq.bytes ++
        encodeSocketAddrOpt endpointHint
  | .advanceTrustPolicyEpoch newTrustEpoch policyDigest =>
    [2] ++ newTrustEpoch.bytes ++ policyDigest.bytes
  | .decommissionCell cell fencedEpoch => [3] ++ cell.bytes ++ fencedEpoch.val.bytes

def RootLeasePoolCommand.encodeBody : RootLeasePoolCommand → List UInt8
  | .registerQuotaPool budgetRoot initialAvailable =>
    [1] ++ budgetRoot.bytes ++ initialAvailable.bytes
  | .allocateQuotaLease leaseId budgetRoot holderCell nodeBootGeneration faceValue epoch
      fencingToken fenceScope =>
      [2] ++ leaseId.bytes ++ budgetRoot.bytes ++ holderCell.bytes ++
        nodeBootGeneration.val.bytes ++ faceValue.bytes ++ epoch.val.bytes ++
        fencingToken.val.bytes ++ fenceScope.bytes
  | .settleOrQuarantineQuotaLease leaseId disposition returnedAmount quarantinedAmount newEpoch
      newFencingToken =>
      [3] ++ leaseId.bytes ++ [ByteTag.toByte disposition] ++ returnedAmount.bytes ++
        quarantinedAmount.bytes ++ newEpoch.val.bytes ++ newFencingToken.val.bytes
  | .allocateCapacityLease capacityLeaseId poolId poolTotalCapacity targetCell
      targetBootGeneration amount capacityEpoch fencingToken =>
      [4] ++ capacityLeaseId.bytes ++ poolId.bytes ++ poolTotalCapacity.bytes ++
        targetCell.bytes ++ targetBootGeneration.val.bytes ++ amount.bytes ++
        capacityEpoch.val.bytes ++ fencingToken.val.bytes
  | .transitionExclusiveDeviceHead deviceId deviceLeaseId exclusivityEpoch holderCell fencingToken
      newState hasResetZeroizationProof =>
      [5] ++ deviceId.bytes ++ deviceLeaseId.bytes ++ exclusivityEpoch.val.bytes ++
        optionBytes Word.bytes holderCell ++ fencingToken.val.bytes ++
        [ByteTag.toByte newState] ++ [hasResetZeroizationProof.toUInt8]

def TaskAuthorityShardCommand.encodeBody : TaskAuthorityShardCommand → List UInt8
  | .assignInitialAuthority assignmentId taskId taskGeneration authorityShard homeCell
      authorityTerm controlEpoch participantRegistryGeneration participantRegistryRoot =>
      [1] ++ assignmentId.bytes ++ taskId.bytes ++ taskGeneration.val.bytes ++
        authorityShard.bytes ++ homeCell.bytes ++ authorityTerm.val.bytes ++
        controlEpoch.bytes ++ participantRegistryGeneration.bytes ++ participantRegistryRoot.bytes
  | .recordCompletedTakeover takeoverReceiptId taskId taskGeneration oldAssignmentId
      newAssignmentId frozenOldAuthorityTerm newAuthorityTerm newHomeCell newControlEpoch
      newParticipantRegistryGeneration newParticipantRegistryRoot exactFenceSetRoot
      outstandingEffectQuarantineRoot =>
      [2] ++ takeoverReceiptId.bytes ++ taskId.bytes ++ taskGeneration.val.bytes ++
        oldAssignmentId.bytes ++ newAssignmentId.bytes ++ frozenOldAuthorityTerm.val.bytes ++
        newAuthorityTerm.val.bytes ++ newHomeCell.bytes ++ newControlEpoch.bytes ++
        newParticipantRegistryGeneration.bytes ++ newParticipantRegistryRoot.bytes ++
        exactFenceSetRoot.bytes ++ optionBytes Word.bytes outstandingEffectQuarantineRoot

def ControlPlaneAuditCommand.encodeBody : ControlPlaneAuditCommand → List UInt8
  | .anchorMigrationIntent intentId sourceCell targetCell epoch intentDigest =>
    [1] ++ intentId.bytes ++ sourceCell.bytes ++ targetCell.bytes ++ epoch.val.bytes ++
      intentDigest.bytes
  | .anchorReconciliationCheckpoint cell nodeBootGeneration epoch checkpointSeq checkpointDigest =>
      [2] ++ cell.bytes ++ nodeBootGeneration.val.bytes ++ epoch.val.bytes ++
        checkpointSeq.val.bytes ++ checkpointDigest.bytes

def ControlPlaneProposal.encodeCommandBody (p : ControlPlaneProposal) : List UInt8 :=
  match p.command with
  | .cellDirectoryMutation cmd => cmd.encodeBody
  | .rootLeasePoolMutation cmd => cmd.encodeBody
  | .taskAuthorityShardMutation cmd => cmd.encodeBody
  | .controlPlaneAuditAnchor cmd => cmd.encodeBody

def proposalDigestDomain : List UInt8 := "llmos/consensus/proposal/v1".toUTF8.toList

def ControlPlaneProposal.proposalDigest (p : ControlPlaneProposal) : Digest :=
  Sha256.digest (proposalDigestDomain ++ [p.command.familyCode.asU8] ++
    p.idempotencyKey.bytes ++ beBytes 8 p.encodeCommandBody.length ++ p.encodeCommandBody)

def CellDirectoryCommand.decodeFields (subTag : UInt8) : CommandReader CellDirectoryCommand :=
  match subTag with
  | 1 => do
    let cell ← readCellId
    let controlDomainId ← read16
    let principalId ← read16
    let nodeBootGeneration ← readGeneration "node_boot_generation"
    let epoch ← readCellEpoch "epoch"
    let heartbeatSeq ← readU64
    let endpointHint ← readSocketAddrOpt
    pure (.upsertCellEndpoint cell controlDomainId principalId nodeBootGeneration epoch
      heartbeatSeq endpointHint)
  | 2 => do
    let newTrustEpoch ← readU64
    let policyDigest ← read32
    pure (.advanceTrustPolicyEpoch newTrustEpoch policyDigest)
  | 3 => do
    let cell ← readCellId
    let fencedEpoch ← readCellEpoch "fenced_epoch"
    pure (.decommissionCell cell fencedEpoch)
  | _ => throw (.invalidNominalField "CellDirectory sub-tag")

def RootLeasePoolCommand.decodeFields (subTag : UInt8) : CommandReader RootLeasePoolCommand :=
  match subTag with
  | 1 => do
    let budgetRoot ← read16
    let initialAvailable ← readU64
    pure (.registerQuotaPool budgetRoot initialAvailable)
  | 2 => do
    let leaseId ← read16
    let budgetRoot ← read16
    let holderCell ← readCellId
    let nodeBootGeneration ← readGeneration "node_boot_generation"
    let faceValue ← readU64
    let epoch ← readCellEpoch "epoch"
    let fencingToken ← readFencingToken "fencing_token"
    let fenceScope ← read16
    pure (.allocateQuotaLease leaseId budgetRoot holderCell nodeBootGeneration faceValue epoch
      fencingToken fenceScope)
  | 3 => do
    let leaseId ← read16
    let disposition ← readTag .truncatedPayload (.invalidNominalField "QuotaLeaseDisposition")
    let returnedAmount ← readU64
    let quarantinedAmount ← readU64
    let newEpoch ← readCellEpoch "new_epoch"
    let newFencingToken ← readFencingToken "new_fencing_token"
    pure (.settleOrQuarantineQuotaLease leaseId disposition returnedAmount quarantinedAmount
      newEpoch newFencingToken)
  | 4 => do
    let capacityLeaseId ← read16
    let poolId ← read16
    let poolTotalCapacity ← readU64
    let targetCell ← readCellId
    let targetBootGeneration ← readGeneration "target_boot_generation"
    let amount ← readU64
    let capacityEpoch ← readNonzeroU64 "capacity_epoch"
    let fencingToken ← readFencingToken "fencing_token"
    pure (.allocateCapacityLease capacityLeaseId poolId poolTotalCapacity targetCell
      targetBootGeneration amount capacityEpoch fencingToken)
  | 5 => do
    let deviceId ← read16
    let deviceLeaseId ← read16
    let exclusivityEpoch ← readNonzeroU64 "exclusivity_epoch"
    let holderCell ← readOption .truncatedPayload
      (.invalidNominalField "holder_cell option tag") readCellId
    let fencingToken ← readFencingToken "fencing_token"
    let newState ← readTag .truncatedPayload (.invalidNominalField "ReplicatedDeviceHeadState")
    let hasResetZeroizationProof ← readBit .truncatedPayload
      (.invalidNominalField "has_reset_zeroization_proof bool")
    pure (.transitionExclusiveDeviceHead deviceId deviceLeaseId exclusivityEpoch holderCell
      fencingToken newState hasResetZeroizationProof)
  | _ => throw (.invalidNominalField "RootLeasePool sub-tag")

def TaskAuthorityShardCommand.decodeFields (subTag : UInt8) :
    CommandReader TaskAuthorityShardCommand :=
  match subTag with
  | 1 => do
    let assignmentId ← read16
    let taskId ← read16
    let taskGeneration ← readGeneration "task_generation"
    let authorityShard ← read16
    let homeCell ← readCellId
    let authorityTerm ← readNonzeroU64 "authority_term"
    let controlEpoch ← readU64
    let participantRegistryGeneration ← readU64
    let participantRegistryRoot ← read32
    pure (.assignInitialAuthority assignmentId taskId taskGeneration authorityShard homeCell
      authorityTerm controlEpoch participantRegistryGeneration participantRegistryRoot)
  | 2 => do
    let takeoverReceiptId ← read16
    let taskId ← read16
    let taskGeneration ← readGeneration "task_generation"
    let oldAssignmentId ← read16
    let newAssignmentId ← read16
    let frozenOldAuthorityTerm ← readNonzeroU64 "frozen_old_authority_term"
    let newAuthorityTerm ← readNonzeroU64 "new_authority_term"
    let newHomeCell ← readCellId
    let newControlEpoch ← readU64
    let newParticipantRegistryGeneration ← readU64
    let newParticipantRegistryRoot ← read32
    let exactFenceSetRoot ← read32
    let outstandingEffectQuarantineRoot ← readOption .truncatedPayload
      (.invalidNominalField "outstanding_effect_quarantine_root option tag") read32
    pure (.recordCompletedTakeover takeoverReceiptId taskId taskGeneration oldAssignmentId
      newAssignmentId frozenOldAuthorityTerm newAuthorityTerm newHomeCell newControlEpoch
      newParticipantRegistryGeneration newParticipantRegistryRoot exactFenceSetRoot
      outstandingEffectQuarantineRoot)
  | _ => throw (.invalidNominalField "TaskAuthorityShard sub-tag")

def ControlPlaneAuditCommand.decodeFields (subTag : UInt8) :
    CommandReader ControlPlaneAuditCommand :=
  match subTag with
  | 1 => do
    let intentId ← read16
    let sourceCell ← readCellId
    let targetCell ← readCellId
    let epoch ← readCellEpoch "epoch"
    let intentDigest ← read32
    pure (.anchorMigrationIntent intentId sourceCell targetCell epoch intentDigest)
  | 2 => do
    let cell ← readCellId
    let nodeBootGeneration ← readGeneration "node_boot_generation"
    let epoch ← readCellEpoch "epoch"
    let checkpointSeq ← readNonzeroU64 "checkpoint_seq"
    let checkpointDigest ← read32
    pure (.anchorReconciliationCheckpoint cell nodeBootGeneration epoch checkpointSeq
      checkpointDigest)
  | _ => throw (.invalidNominalField "ControlPlaneAudit sub-tag")

def decodeCommand (familyCode : CommandFamilyCode) : CommandReader ControlPlaneCommand := do
  let subTag ← readU8
  match familyCode with
  | .cellDirectory => .cellDirectoryMutation <$> CellDirectoryCommand.decodeFields subTag
  | .rootLeasePool => .rootLeasePoolMutation <$> RootLeasePoolCommand.decodeFields subTag
  | .taskAuthorityShard =>
    .taskAuthorityShardMutation <$> TaskAuthorityShardCommand.decodeFields subTag
  | .controlPlaneAudit =>
    .controlPlaneAuditAnchor <$> ControlPlaneAuditCommand.decodeFields subTag

def ControlPlaneProposal.decodeCommandBody (familyCode : CommandFamilyCode)
    (idempotencyKey : IdempotencyKey) (body : List UInt8) :
    Except ScopeViolationError ControlPlaneProposal := do
  let (command, rest) ← (decodeCommand familyCode).run body
  if rest = [] then pure ⟨idempotencyKey, command⟩ else throw .trailingBytes

/-- What an encoding keeps of an address. -/
def SocketAddr.onWire : SocketAddr → SocketAddr
  | .v4 ip port => .v4 ip port
  | .v6 ip port _ _ => .v6 ip port 0 0

/-- What an encoding keeps of a command: everything but an endpoint's flow and scope. -/
def ControlPlaneCommand.onWire : ControlPlaneCommand → ControlPlaneCommand
  | .cellDirectoryMutation (.upsertCellEndpoint cell controlDomainId principalId
      nodeBootGeneration epoch heartbeatSeq endpointHint) =>
      .cellDirectoryMutation (.upsertCellEndpoint cell controlDomainId principalId
        nodeBootGeneration epoch heartbeatSeq (endpointHint.map SocketAddr.onWire))
  | cmd => cmd

def ControlPlaneProposal.onWire (p : ControlPlaneProposal) : ControlPlaneProposal :=
  { p with command := p.command.onWire }

@[simp] lemma ControlPlaneProposal.onWire_onWire (p : ControlPlaneProposal) :
    p.onWire.onWire = p.onWire := by
  obtain ⟨key, command⟩ := p
  rcases command with cmd | cmd | cmd | cmd
  · rcases cmd with ⟨_, _, _, _, _, _, _ | ⟨_ | _⟩⟩ | _ <;> rfl
  all_goals rfl

@[simp] lemma ControlPlaneProposal.idempotencyKey_onWire (p : ControlPlaneProposal) :
    p.onWire.idempotencyKey = p.idempotencyKey := rfl

@[simp] lemma ControlPlaneProposal.familyCode_onWire (p : ControlPlaneProposal) :
    p.onWire.command.familyCode = p.command.familyCode := by
  obtain ⟨key, command⟩ := p
  rcases command with cmd | cmd | cmd | cmd <;> cases cmd <;> rfl

@[simp] lemma ControlPlaneProposal.encodeCommandBody_onWire (p : ControlPlaneProposal) :
    p.onWire.encodeCommandBody = p.encodeCommandBody := by
  obtain ⟨key, command⟩ := p
  rcases command with cmd | cmd | cmd | cmd
  · rcases cmd with ⟨_, _, _, _, _, _, _ | ⟨_ | _⟩⟩ | _ <;> rfl
  all_goals rfl

lemma reads_cursorSocketAddrOpt {ε : Type} (short bad : ε) (hint : Option SocketAddr) :
    Reads (cursorSocketAddrOpt short bad) (encodeSocketAddrOpt hint)
      (hint.map SocketAddr.onWire) := by
  rcases hint with _ | ⟨ip, port⟩ | ⟨ip, port, flowinfo, scopeId⟩ <;>
    simp [cursorSocketAddrOpt, encodeSocketAddrOpt, SocketAddr.onWire]

@[simp] lemma reads_cursorSocketAddrOpt_bind {ε β : Type} {short bad : ε} {w : β}
    {f b} (hint : Option SocketAddr) :
    Reads (cursorSocketAddrOpt short bad >>= f) (encodeSocketAddrOpt hint ++ b) w ↔
      Reads (f (hint.map SocketAddr.onWire)) b w :=
  (reads_cursorSocketAddrOpt short bad hint).bind_iff

@[simp] lemma reads_cursorSocketAddrOpt_map {ε β : Type} {short bad : ε} {w : β}
    {f} (hint : Option SocketAddr) :
    Reads (f <$> cursorSocketAddrOpt short bad) (encodeSocketAddrOpt hint) w ↔
      f (hint.map SocketAddr.onWire) = w :=
  (reads_cursorSocketAddrOpt short bad hint).map_iff

lemma reads_decodeCommand (p : ControlPlaneProposal) :
    Reads (decodeCommand p.command.familyCode) p.encodeCommandBody p.command.onWire := by
  obtain ⟨key, command⟩ := p
  rcases command with cmd | cmd | cmd | cmd <;> cases cmd <;>
    simp [decodeCommand, ControlPlaneCommand.familyCode, ControlPlaneProposal.encodeCommandBody,
      ControlPlaneCommand.onWire, CellDirectoryCommand.encodeBody,
      RootLeasePoolCommand.encodeBody, TaskAuthorityShardCommand.encodeBody,
      ControlPlaneAuditCommand.encodeBody, CellDirectoryCommand.decodeFields,
      RootLeasePoolCommand.decodeFields, TaskAuthorityShardCommand.decodeFields,
      ControlPlaneAuditCommand.decodeFields]

lemma decodeCommandBody_encodeCommandBody (p : ControlPlaneProposal) :
    ControlPlaneProposal.decodeCommandBody p.command.familyCode p.idempotencyKey
      p.encodeCommandBody = .ok p.onWire := by
  rw [ControlPlaneProposal.decodeCommandBody, (reads_decodeCommand p).run_nil]
  rfl

end Nlos.Consensus
