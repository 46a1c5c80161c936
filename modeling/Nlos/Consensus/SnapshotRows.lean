import Nlos.Consensus.StateMachine
import Nlos.Consensus.WireCodec

/-!
# The rows of a snapshot

A snapshot body is the four high-water marks and the trust policy, then every table as a row count
and its rows in key order. The rows are read one by one, each field with the error the decoder
reports for it.
-/

namespace Nlos.Consensus

open Lib ControlPlaneDomainRejection

inductive SnapshotCodecError where
  | invalidMagic
  | truncated
  | trailingBytes
  | corruptField (field : String)
  | checksumMismatch
deriving DecidableEq

abbrev SnapshotReader := Reader SnapshotCodecError

def ControlPlaneDomainRejection.asU8 : ControlPlaneDomainRejection → UInt8
  | .idempotencyKeyPayloadConflict => 1
  | .staleCellRoutingVersion => 2
  | .staleTrustPolicyEpoch => 3
  | .insufficientOrInvalidPoolBalance => 4
  | .nonMonotonicFencingToken => 5
  | .invalidLeaseSettlement => 6
  | .deviceExclusivityViolation => 7
  | .taskAuthorityCasConflict => 8
  | .auditAnchorConflict => 9

def ControlPlaneDomainRejection.fromU8 (v : UInt8) : Option ControlPlaneDomainRejection :=
  match v with
  | 1 => some .idempotencyKeyPayloadConflict
  | 2 => some .staleCellRoutingVersion
  | 3 => some .staleTrustPolicyEpoch
  | 4 => some .insufficientOrInvalidPoolBalance
  | 5 => some .nonMonotonicFencingToken
  | 6 => some .invalidLeaseSettlement
  | 7 => some .deviceExclusivityViolation
  | 8 => some .taskAuthorityCasConflict
  | 9 => some .auditAnchorConflict
  | _ => none

/-- A verdict in the dedup table: zero when the command was applied. -/
def rejectionByte (rejection : Option ControlPlaneDomainRejection) : UInt8 :=
  (rejection.map ControlPlaneDomainRejection.asU8).getD 0

def readRejection : SnapshotReader (Option ControlPlaneDomainRejection) := do
  let code ← readByte .truncated
  if code = 0 then pure none
  else
    match ControlPlaneDomainRejection.fromU8 code with
    | some reason => pure (some reason)
    | none => throw (.corruptField "dd.rejection")

abbrev snapshotWord (k : ℕ) : SnapshotReader (Word k) := readWord .truncated k

/-- A non-zero counter; a missing or zero one is reported under its field name. -/
abbrev snapshotNonzero (field : String) : SnapshotReader NonZeroU64 :=
  readNonzero (.corruptField field) (.corruptField field) 8

def snapshotLen : SnapshotReader U32 := snapshotWord 4

def ReplicatedCellDirectoryEntry.row (entry : ReplicatedCellDirectoryEntry) : List UInt8 :=
  entry.cell.bytes ++ entry.controlDomainId.bytes ++ entry.principalId.bytes ++
    entry.nodeBootGeneration.val.bytes ++ entry.epoch.val.bytes ++ entry.heartbeatSeq.bytes ++
    encodeSocketAddrOpt entry.endpointHint ++ [entry.decommissioned.toUInt8] ++
    entry.updatedAtCommitIndex.val.bytes

def readCellRow : SnapshotReader ReplicatedCellDirectoryEntry := do
  let cell ← readWord (.corruptField "cell") 16
  let controlDomainId ← snapshotWord 16
  let principalId ← snapshotWord 16
  let nodeBootGeneration ← snapshotNonzero "boot_gen"
  let epoch ← snapshotNonzero "epoch"
  let heartbeatSeq ← snapshotWord 8
  let endpointHint ← cursorSocketAddrOpt (.corruptField "endpoint_hint")
    (.corruptField "endpoint_hint")
  let decommissioned ← readBit .truncated (.corruptField "decommissioned")
  let updatedAtCommitIndex ← snapshotNonzero "updated_at_commit_index"
  pure { cell, controlDomainId, principalId, nodeBootGeneration, epoch, heartbeatSeq,
         endpointHint, decommissioned, updatedAtCommitIndex }

def quotaPoolRow (entry : Word 16 × QuotaPoolBalance) : List UInt8 :=
  entry.1.bytes ++ entry.2.available.bytes ++ entry.2.leasedActive.bytes ++
    entry.2.quarantined.bytes

def readQuotaPoolRow : SnapshotReader (Word 16 × QuotaPoolBalance) := do
  let root ← snapshotWord 16
  let available ← snapshotWord 8
  let leasedActive ← snapshotWord 8
  let quarantined ← snapshotWord 8
  pure (root, { available, leasedActive, quarantined })

def ReplicatedQuotaLeaseEntry.row (ql : ReplicatedQuotaLeaseEntry) : List UInt8 :=
  ql.leaseId.bytes ++ ql.budgetRoot.bytes ++ ql.holderCell.bytes ++
    ql.nodeBootGeneration.val.bytes ++ ql.faceValue.bytes ++ ql.returnedAmount.bytes ++
    ql.quarantinedAmount.bytes ++ ql.epoch.val.bytes ++ ql.fencingToken.val.bytes ++
    ql.fenceScope.bytes ++ [ByteTag.toByte ql.disposition] ++ ql.committedAtIndex.val.bytes

def readQuotaLeaseRow : SnapshotReader ReplicatedQuotaLeaseEntry := do
  let leaseId ← snapshotWord 16
  let budgetRoot ← snapshotWord 16
  let holderCell ← snapshotWord 16
  let nodeBootGeneration ← snapshotNonzero "ql.boot_gen"
  let faceValue ← snapshotWord 8
  let returnedAmount ← snapshotWord 8
  let quarantinedAmount ← snapshotWord 8
  let epoch ← snapshotNonzero "ql.epoch"
  let fencingToken ← snapshotNonzero "ql.tok"
  let fenceScope ← snapshotWord 16
  let disposition ← readTag .truncated (.corruptField "ql.disposition")
  let committedAtIndex ← snapshotNonzero "ql.idx"
  pure { leaseId, budgetRoot, holderCell, nodeBootGeneration, faceValue, returnedAmount,
         quarantinedAmount, epoch, fencingToken, fenceScope, disposition, committedAtIndex }

def capacityPoolRow (entry : Word 16 × CapacityPoolBalance) : List UInt8 :=
  entry.1.bytes ++ entry.2.totalCapacity.bytes ++ entry.2.committed.bytes

def readCapacityPoolRow : SnapshotReader (Word 16 × CapacityPoolBalance) := do
  let poolId ← snapshotWord 16
  let totalCapacity ← snapshotWord 8
  let committed ← snapshotWord 8
  pure (poolId, { totalCapacity, committed })

def ReplicatedCapacityLeaseEntry.row (cl : ReplicatedCapacityLeaseEntry) : List UInt8 :=
  cl.capacityLeaseId.bytes ++ cl.poolId.bytes ++ cl.targetCell.bytes ++
    cl.targetBootGeneration.val.bytes ++ cl.amount.bytes ++ cl.capacityEpoch.val.bytes ++
    cl.fencingToken.val.bytes ++ cl.committedAtIndex.val.bytes

def readCapacityLeaseRow : SnapshotReader ReplicatedCapacityLeaseEntry := do
  let capacityLeaseId ← snapshotWord 16
  let poolId ← snapshotWord 16
  let targetCell ← snapshotWord 16
  let targetBootGeneration ← snapshotNonzero "cl.boot"
  let amount ← snapshotWord 8
  let capacityEpoch ← snapshotNonzero "cl.epoch"
  let fencingToken ← snapshotNonzero "cl.tok"
  let committedAtIndex ← snapshotNonzero "cl.idx"
  pure { capacityLeaseId, poolId, targetCell, targetBootGeneration, amount, capacityEpoch,
         fencingToken, committedAtIndex }

def ReplicatedDeviceHeadEntry.row (dh : ReplicatedDeviceHeadEntry) : List UInt8 :=
  dh.deviceId.bytes ++ dh.deviceLeaseId.bytes ++ dh.exclusivityEpoch.val.bytes ++
    optionBytes Word.bytes dh.holderCell ++ dh.fencingToken.val.bytes ++
    [ByteTag.toByte dh.state] ++ dh.committedAtIndex.val.bytes

def readDeviceHeadRow : SnapshotReader ReplicatedDeviceHeadEntry := do
  let deviceId ← snapshotWord 16
  let deviceLeaseId ← snapshotWord 16
  let exclusivityEpoch ← snapshotNonzero "dh.epoch"
  let holderCell ← readOption .truncated (.corruptField "dh.holder_cell") (snapshotWord 16)
  let fencingToken ← snapshotNonzero "dh.tok"
  let state ← readTag .truncated (.corruptField "dh.state")
  let committedAtIndex ← snapshotNonzero "dh.idx"
  pure { deviceId, deviceLeaseId, exclusivityEpoch, holderCell, fencingToken, state,
         committedAtIndex }

def fenceScopeRow (entry : Word 16 × CellFencingToken) : List UInt8 :=
  entry.1.bytes ++ entry.2.val.bytes

def readFenceScopeRow : SnapshotReader (Word 16 × CellFencingToken) := do
  let scope ← snapshotWord 16
  let tok ← snapshotNonzero "fs.tok"
  pure (scope, tok)

def CommittedTaskAuthorityAssignment.row (ts : CommittedTaskAuthorityAssignment) : List UInt8 :=
  ts.assignmentId.bytes ++ ts.taskId.bytes ++ ts.taskGeneration.val.bytes ++
    ts.authorityShard.bytes ++ ts.homeCell.bytes ++ ts.authorityTerm.val.bytes ++
    ts.controlEpoch.bytes ++ ts.participantRegistryGeneration.bytes ++
    ts.participantRegistryRoot.bytes ++ ts.consensusCommitIndex.val.bytes ++
    ts.consensusTerm.val.bytes

def readTaskShardRow : SnapshotReader CommittedTaskAuthorityAssignment := do
  let assignmentId ← snapshotWord 16
  let taskId ← snapshotWord 16
  let taskGeneration ← snapshotNonzero "ts.gen"
  let authorityShard ← snapshotWord 16
  let homeCell ← snapshotWord 16
  let authorityTerm ← snapshotNonzero "ts.term"
  let controlEpoch ← snapshotWord 8
  let participantRegistryGeneration ← snapshotWord 8
  let participantRegistryRoot ← snapshotWord 32
  let consensusCommitIndex ← snapshotNonzero "ts.cidx"
  let consensusTerm ← snapshotNonzero "ts.cterm"
  pure { assignmentId, taskId, taskGeneration, authorityShard, homeCell, authorityTerm,
         controlEpoch, participantRegistryGeneration, participantRegistryRoot,
         consensusCommitIndex, consensusTerm }

def CommittedTaskAuthorityTakeover.row (tr : CommittedTaskAuthorityTakeover) : List UInt8 :=
  tr.takeoverReceiptId.bytes ++ tr.taskId.bytes ++ tr.taskGeneration.val.bytes ++
    tr.oldAssignmentId.bytes ++ tr.newAssignmentId.bytes ++
    tr.frozenOldAuthorityTerm.val.bytes ++ tr.newAuthorityTerm.val.bytes ++
    tr.newHomeCell.bytes ++ tr.newControlEpoch.bytes ++ tr.exactFenceSetRoot.bytes ++
    optionBytes Word.bytes tr.outstandingEffectQuarantineRoot ++
    tr.consensusCommitIndex.val.bytes ++ tr.consensusTerm.val.bytes

def readTakeoverRow : SnapshotReader CommittedTaskAuthorityTakeover := do
  let takeoverReceiptId ← snapshotWord 16
  let taskId ← snapshotWord 16
  let taskGeneration ← snapshotNonzero "tr.gen"
  let oldAssignmentId ← snapshotWord 16
  let newAssignmentId ← snapshotWord 16
  let frozenOldAuthorityTerm ← snapshotNonzero "tr.old_term"
  let newAuthorityTerm ← snapshotNonzero "tr.new_term"
  let newHomeCell ← snapshotWord 16
  let newControlEpoch ← snapshotWord 8
  let exactFenceSetRoot ← snapshotWord 32
  let outstandingEffectQuarantineRoot ← readOption .truncated
    (.corruptField "tr.quarantine_opt") (snapshotWord 32)
  let consensusCommitIndex ← snapshotNonzero "tr.cidx"
  let consensusTerm ← snapshotNonzero "tr.cterm"
  pure { takeoverReceiptId, taskId, taskGeneration, oldAssignmentId, newAssignmentId,
         frozenOldAuthorityTerm, newAuthorityTerm, newHomeCell, newControlEpoch,
         exactFenceSetRoot, outstandingEffectQuarantineRoot, consensusCommitIndex, consensusTerm }

def ReplicatedMigrationAnchor.row (ma : ReplicatedMigrationAnchor) : List UInt8 :=
  ma.intentId.bytes ++ ma.sourceCell.bytes ++ ma.targetCell.bytes ++ ma.epoch.val.bytes ++
    ma.intentDigest.bytes ++ ma.consensusCommitIndex.val.bytes

def readMigrationRow : SnapshotReader ReplicatedMigrationAnchor := do
  let intentId ← snapshotWord 16
  let sourceCell ← snapshotWord 16
  let targetCell ← snapshotWord 16
  let epoch ← snapshotNonzero "ma.epoch"
  let intentDigest ← snapshotWord 32
  let consensusCommitIndex ← snapshotNonzero "ma.cidx"
  pure { intentId, sourceCell, targetCell, epoch, intentDigest, consensusCommitIndex }

def ReplicatedCheckpointAnchor.row (ca : ReplicatedCheckpointAnchor) : List UInt8 :=
  ca.cell.bytes ++ ca.nodeBootGeneration.val.bytes ++ ca.epoch.val.bytes ++
    ca.checkpointSeq.val.bytes ++ ca.checkpointDigest.bytes ++
    ca.consensusCommitIndex.val.bytes

def readCheckpointRow : SnapshotReader ReplicatedCheckpointAnchor := do
  let cell ← snapshotWord 16
  let nodeBootGeneration ← snapshotNonzero "ca.boot"
  let epoch ← snapshotNonzero "ca.epoch"
  let checkpointSeq ← snapshotNonzero "ca.seq"
  let checkpointDigest ← snapshotWord 32
  let consensusCommitIndex ← snapshotNonzero "ca.cidx"
  pure { cell, nodeBootGeneration, epoch, checkpointSeq, checkpointDigest, consensusCommitIndex }

def dedupRow (entry : IdempotencyKey × DedupRecord) : List UInt8 :=
  entry.1.bytes ++ entry.2.proposalDigest.bytes ++ entry.2.committedIndex.val.bytes ++
    [rejectionByte entry.2.rejection]

def readDedupRow : SnapshotReader (IdempotencyKey × DedupRecord) := do
  let key ← snapshotWord 16
  let proposalDigest ← snapshotWord 32
  let committedIndex ← snapshotNonzero "dd.idx"
  let rejection ← readRejection
  pure (key, { proposalDigest, committedIndex, rejection })

/-! ## What the readers accept -/

lemma ControlPlaneDomainRejection.asU8_of_fromU8
    (h : fromU8 v = some reason) : reason.asU8 = v := by
  simp only [fromU8] at h
  split at h <;> cases h <;> rfl

lemma reads_readRejection (rejection : Option ControlPlaneDomainRejection) :
    Reads readRejection [rejectionByte rejection] rejection := by
  rw [readRejection, (reads_readByte _ _).bind_last_iff]
  rcases rejection with _ | reason
  · exact Reads.pure none
  · cases reason <;> exact Reads.pure _

lemma decodes_readRejection :
    Decodes readRejection (fun rejection => [rejectionByte rejection]) fun _ => True := by
  refine decodes_of_reads_of_yields (fun r _ => reads_readRejection r) fun input => ?_
  rw [readRejection, yields_bind_iff, yields_readByte_iff]
  rintro code rest rfl
  rw [yields_ite_iff]
  refine ⟨fun hzero => ?_, fun _ => ?_⟩
  · simp [hzero, rejectionByte]
  · split
    · next reason hreason =>
      simp [rejectionByte, asU8_of_fromU8 hreason]
    · exact yields_throw _

@[simp] lemma reads_readRejection_map {β : Type} {w : β}
    {f} (rejection : Option ControlPlaneDomainRejection) :
    Reads (f <$> readRejection) [rejectionByte rejection] w ↔ f rejection = w :=
  (reads_readRejection rejection).map_iff

lemma yields_readRejection_iff
    {Q : Option ControlPlaneDomainRejection → List UInt8 → Prop} : Yields readRejection input Q ↔
      ∀ rejection rest, input = rejectionByte rejection :: rest → Q rejection rest := by
  simp [decodes_readRejection.yields_iff]

/-- A row of the directory keeps no flow information and no scope of its endpoint. -/
lemma decodes_readCellRow : Decodes readCellRow ReplicatedCellDirectoryEntry.row fun entry =>
      entry.endpointHint.map SocketAddr.onWire = entry.endpointHint := by
  refine decodes_of_reads_of_yields (fun entry hkept => ?_) fun input => ?_
  · simp [readCellRow, ReplicatedCellDirectoryEntry.row, hkept]
  · simp only [readCellRow, yields_bind_iff, yields_pure_iff, yields_readWord_iff,
      yields_readNonzero_iff, yields_cursorSocketAddrOpt_iff, yields_readBit_iff]
    intros
    subst_vars
    simp [ReplicatedCellDirectoryEntry.row, *]

lemma decodes_readQuotaPoolRow : Decodes readQuotaPoolRow quotaPoolRow fun _ => True := by
  refine decodes_of_reads_of_yields (fun entry _ => ?_) fun input => ?_
  · simp [readQuotaPoolRow, quotaPoolRow]
  · simp only [readQuotaPoolRow, yields_bind_iff, yields_pure_iff, yields_readWord_iff]
    intros
    subst_vars
    simp [quotaPoolRow]

lemma decodes_readQuotaLeaseRow :
    Decodes readQuotaLeaseRow ReplicatedQuotaLeaseEntry.row fun _ => True := by
  refine decodes_of_reads_of_yields (fun entry _ => ?_) fun input => ?_
  · simp [readQuotaLeaseRow, ReplicatedQuotaLeaseEntry.row]
  · simp only [readQuotaLeaseRow, yields_bind_iff, yields_pure_iff, yields_readWord_iff,
      yields_readNonzero_iff, yields_readTag_iff]
    intros
    subst_vars
    simp [ReplicatedQuotaLeaseEntry.row]

lemma decodes_readCapacityPoolRow : Decodes readCapacityPoolRow capacityPoolRow fun _ => True := by
  refine decodes_of_reads_of_yields (fun entry _ => ?_) fun input => ?_
  · simp [readCapacityPoolRow, capacityPoolRow]
  · simp only [readCapacityPoolRow, yields_bind_iff, yields_pure_iff, yields_readWord_iff]
    intros
    subst_vars
    simp [capacityPoolRow]

lemma decodes_readCapacityLeaseRow :
    Decodes readCapacityLeaseRow ReplicatedCapacityLeaseEntry.row fun _ => True := by
  refine decodes_of_reads_of_yields (fun entry _ => ?_) fun input => ?_
  · simp [readCapacityLeaseRow, ReplicatedCapacityLeaseEntry.row]
  · simp only [readCapacityLeaseRow, yields_bind_iff, yields_pure_iff, yields_readWord_iff,
      yields_readNonzero_iff]
    intros
    subst_vars
    simp [ReplicatedCapacityLeaseEntry.row]

lemma decodes_readDeviceHeadRow :
    Decodes readDeviceHeadRow ReplicatedDeviceHeadEntry.row fun _ => True := by
  refine decodes_of_reads_of_yields (fun entry _ => ?_) fun input => ?_
  · simp [readDeviceHeadRow, ReplicatedDeviceHeadEntry.row]
  · simp only [readDeviceHeadRow, yields_bind_iff, yields_pure_iff, yields_readWord_iff,
      yields_readNonzero_iff, yields_readOption_word_iff, yields_readTag_iff]
    intros
    subst_vars
    simp [ReplicatedDeviceHeadEntry.row]

lemma decodes_readFenceScopeRow : Decodes readFenceScopeRow fenceScopeRow fun _ => True := by
  refine decodes_of_reads_of_yields (fun entry _ => ?_) fun input => ?_
  · simp [readFenceScopeRow, fenceScopeRow]
  · simp only [readFenceScopeRow, yields_bind_iff, yields_pure_iff, yields_readWord_iff,
      yields_readNonzero_iff]
    intros
    subst_vars
    simp [fenceScopeRow]

lemma decodes_readTaskShardRow :
    Decodes readTaskShardRow CommittedTaskAuthorityAssignment.row fun _ => True := by
  refine decodes_of_reads_of_yields (fun entry _ => ?_) fun input => ?_
  · simp [readTaskShardRow, CommittedTaskAuthorityAssignment.row]
  · simp only [readTaskShardRow, yields_bind_iff, yields_pure_iff, yields_readWord_iff,
      yields_readNonzero_iff]
    intros
    subst_vars
    simp [CommittedTaskAuthorityAssignment.row]

lemma decodes_readTakeoverRow :
    Decodes readTakeoverRow CommittedTaskAuthorityTakeover.row fun _ => True := by
  refine decodes_of_reads_of_yields (fun entry _ => ?_) fun input => ?_
  · simp [readTakeoverRow, CommittedTaskAuthorityTakeover.row]
  · simp only [readTakeoverRow, yields_bind_iff, yields_pure_iff, yields_readWord_iff,
      yields_readNonzero_iff, yields_readOption_word_iff]
    intros
    subst_vars
    simp [CommittedTaskAuthorityTakeover.row]

lemma decodes_readMigrationRow :
    Decodes readMigrationRow ReplicatedMigrationAnchor.row fun _ => True := by
  refine decodes_of_reads_of_yields (fun entry _ => ?_) fun input => ?_
  · simp [readMigrationRow, ReplicatedMigrationAnchor.row]
  · simp only [readMigrationRow, yields_bind_iff, yields_pure_iff, yields_readWord_iff,
      yields_readNonzero_iff]
    intros
    subst_vars
    simp [ReplicatedMigrationAnchor.row]

lemma decodes_readCheckpointRow :
    Decodes readCheckpointRow ReplicatedCheckpointAnchor.row fun _ => True := by
  refine decodes_of_reads_of_yields (fun entry _ => ?_) fun input => ?_
  · simp [readCheckpointRow, ReplicatedCheckpointAnchor.row]
  · simp only [readCheckpointRow, yields_bind_iff, yields_pure_iff, yields_readWord_iff,
      yields_readNonzero_iff]
    intros
    subst_vars
    simp [ReplicatedCheckpointAnchor.row]

lemma decodes_readDedupRow : Decodes readDedupRow dedupRow fun _ => True := by
  refine decodes_of_reads_of_yields (fun entry _ => ?_) fun input => ?_
  · simp [readDedupRow, dedupRow]
  · simp only [readDedupRow, yields_bind_iff, yields_pure_iff, yields_readWord_iff,
      yields_readNonzero_iff, yields_readRejection_iff]
    intros
    subst_vars
    simp [dedupRow]

end Nlos.Consensus
