import Nlos.Consensus.SnapshotRows

/-!
# Control-plane snapshots

A snapshot frames the canonical body of a state machine with a magic header, the state root, the
length of the body and a checksum. The decoder inserts the rows of the body into maps and compares
the state root of the result with the declared one.
-/

namespace Nlos.Consensus

open Lib

structure SnapshotRows where
  (lastAppliedIndex lastAppliedTerm authorityReceiptHighWater trustPolicyEpoch : U64)
  trustPolicyDigest : Digest
  cells : List ReplicatedCellDirectoryEntry
  quotaPools : List (Word 16 × QuotaPoolBalance)
  quotaLeases : List ReplicatedQuotaLeaseEntry
  capacityPools : List (Word 16 × CapacityPoolBalance)
  capacityLeases : List ReplicatedCapacityLeaseEntry
  deviceHeads : List ReplicatedDeviceHeadEntry
  fenceScopeHighWater : List (Word 16 × CellFencingToken)
  taskShards : List CommittedTaskAuthorityAssignment
  takeoverReceipts : List CommittedTaskAuthorityTakeover
  migrationAnchors : List ReplicatedMigrationAnchor
  checkpointAnchors : List ReplicatedCheckpointAnchor
  dedupTable : List (IdempotencyKey × DedupRecord)

def tableBytes {ρ : Type} (row : ρ → List UInt8) (rows : List ρ) : List UInt8 :=
  beBytes 4 rows.length ++ rows.flatMap row

def readRows {ρ : Type} (readRow : SnapshotReader ρ) : SnapshotReader (List ρ) := do
  let count ← snapshotLen
  readMany readRow count.val

def SnapshotRows.body (r : SnapshotRows) : List UInt8 :=
  r.lastAppliedIndex.bytes ++ r.lastAppliedTerm.bytes ++ r.authorityReceiptHighWater.bytes ++
    r.trustPolicyEpoch.bytes ++ r.trustPolicyDigest.bytes ++
    tableBytes ReplicatedCellDirectoryEntry.row r.cells ++
    tableBytes quotaPoolRow r.quotaPools ++
    tableBytes ReplicatedQuotaLeaseEntry.row r.quotaLeases ++
    tableBytes capacityPoolRow r.capacityPools ++
    tableBytes ReplicatedCapacityLeaseEntry.row r.capacityLeases ++
    tableBytes ReplicatedDeviceHeadEntry.row r.deviceHeads ++
    tableBytes fenceScopeRow r.fenceScopeHighWater ++
    tableBytes CommittedTaskAuthorityAssignment.row r.taskShards ++
    tableBytes CommittedTaskAuthorityTakeover.row r.takeoverReceipts ++
    tableBytes ReplicatedMigrationAnchor.row r.migrationAnchors ++
    tableBytes ReplicatedCheckpointAnchor.row r.checkpointAnchors ++
    tableBytes dedupRow r.dedupTable

def readSnapshotRows : SnapshotReader SnapshotRows := do
  let lastAppliedIndex ← snapshotWord 8
  let lastAppliedTerm ← snapshotWord 8
  let authorityReceiptHighWater ← snapshotWord 8
  let trustPolicyEpoch ← snapshotWord 8
  let trustPolicyDigest ← snapshotWord 32
  let cells ← readRows readCellRow
  let quotaPools ← readRows readQuotaPoolRow
  let quotaLeases ← readRows readQuotaLeaseRow
  let capacityPools ← readRows readCapacityPoolRow
  let capacityLeases ← readRows readCapacityLeaseRow
  let deviceHeads ← readRows readDeviceHeadRow
  let fenceScopeHighWater ← readRows readFenceScopeRow
  let taskShards ← readRows readTaskShardRow
  let takeoverReceipts ← readRows readTakeoverRow
  let migrationAnchors ← readRows readMigrationRow
  let checkpointAnchors ← readRows readCheckpointRow
  let dedupTable ← readRows readDedupRow
  pure { lastAppliedIndex, lastAppliedTerm, authorityReceiptHighWater, trustPolicyEpoch,
         trustPolicyDigest, cells, quotaPools, quotaLeases, capacityPools, capacityLeases,
         deviceHeads, fenceScopeHighWater, taskShards, takeoverReceipts, migrationAnchors,
         checkpointAnchors, dedupTable }

/-- The key under which the decoder inserts each row. -/
abbrev ReplicatedCellDirectoryEntry.entry (e : ReplicatedCellDirectoryEntry) := (e.cell, e)
abbrev ReplicatedQuotaLeaseEntry.entry (e : ReplicatedQuotaLeaseEntry) := (e.leaseId, e)
abbrev ReplicatedCapacityLeaseEntry.entry (e : ReplicatedCapacityLeaseEntry) :=
  (e.capacityLeaseId, e)
abbrev ReplicatedDeviceHeadEntry.entry (e : ReplicatedDeviceHeadEntry) := (e.deviceId, e)
abbrev CommittedTaskAuthorityAssignment.entry (e : CommittedTaskAuthorityAssignment) :=
  ((e.taskId, e.taskGeneration), e)
abbrev CommittedTaskAuthorityTakeover.entry (e : CommittedTaskAuthorityTakeover) :=
  (e.takeoverReceiptId, e)
abbrev ReplicatedMigrationAnchor.entry (e : ReplicatedMigrationAnchor) := (e.intentId, e)
abbrev ReplicatedCheckpointAnchor.entry (e : ReplicatedCheckpointAnchor) :=
  ((e.cell, e.checkpointSeq.val), e)

/-- The maps that result from inserting the rows in the order in which they are read. -/
def SnapshotRows.stateMachine (r : SnapshotRows) : ControlPlaneStateMachine where
  lastAppliedIndex := r.lastAppliedIndex
  lastAppliedTerm := r.lastAppliedTerm
  authorityReceiptHighWater := r.authorityReceiptHighWater
  trustPolicyEpoch := r.trustPolicyEpoch
  trustPolicyDigest := r.trustPolicyDigest
  cells := Table.ofRows ReplicatedCellDirectoryEntry.entry r.cells
  quotaPools := Table.ofRows id r.quotaPools
  quotaLeases := Table.ofRows ReplicatedQuotaLeaseEntry.entry r.quotaLeases
  capacityPools := Table.ofRows id r.capacityPools
  capacityLeases := Table.ofRows ReplicatedCapacityLeaseEntry.entry r.capacityLeases
  deviceHeads := Table.ofRows ReplicatedDeviceHeadEntry.entry r.deviceHeads
  fenceScopeHighWater := Table.ofRows id r.fenceScopeHighWater
  taskShards := Table.ofRows CommittedTaskAuthorityAssignment.entry r.taskShards
  takeoverReceipts := Table.ofRows CommittedTaskAuthorityTakeover.entry r.takeoverReceipts
  migrationAnchors := Table.ofRows ReplicatedMigrationAnchor.entry r.migrationAnchors
  checkpointAnchors := Table.ofRows ReplicatedCheckpointAnchor.entry r.checkpointAnchors
  dedupTable := Table.ofRows id r.dedupTable

namespace ControlPlaneStateMachine

/-- The rows that the encoder writes: the values of each map, or its entries, in key order. -/
def rows (sm : ControlPlaneStateMachine) : SnapshotRows where
  lastAppliedIndex := sm.lastAppliedIndex
  lastAppliedTerm := sm.lastAppliedTerm
  authorityReceiptHighWater := sm.authorityReceiptHighWater
  trustPolicyEpoch := sm.trustPolicyEpoch
  trustPolicyDigest := sm.trustPolicyDigest
  cells := Table.values sm.cells
  quotaPools := sm.quotaPools.toList
  quotaLeases := Table.values sm.quotaLeases
  capacityPools := sm.capacityPools.toList
  capacityLeases := Table.values sm.capacityLeases
  deviceHeads := Table.values sm.deviceHeads
  fenceScopeHighWater := sm.fenceScopeHighWater.toList
  taskShards := Table.values sm.taskShards
  takeoverReceipts := Table.values sm.takeoverReceipts
  migrationAnchors := Table.values sm.migrationAnchors
  checkpointAnchors := Table.values sm.checkpointAnchors
  dedupTable := sm.dedupTable.toList

def encodeCanonicalStateBody (sm : ControlPlaneStateMachine) : List UInt8 := sm.rows.body

def stateRootDomain : List UInt8 := "llmos/consensus/state-root/v1".toUTF8.toList

def stateRootDigest (sm : ControlPlaneStateMachine) : Digest :=
  let canonical := sm.encodeCanonicalStateBody
  Sha256.digest (stateRootDomain ++ beBytes 8 canonical.length ++ canonical)

def snapshotMagic : List UInt8 := "NLOSSN01".toUTF8.toList

def snapshotChecksumDomain : List UInt8 := "llmos/consensus/state-snapshot/v1".toUTF8.toList

def snapshotFrame (declaredRoot : Digest) (body : List UInt8) : List UInt8 :=
  let out := snapshotMagic ++ declaredRoot.bytes ++ beBytes 4 body.length ++ body
  out ++ (Sha256.digest (snapshotChecksumDomain ++ out)).bytes

/-- Encodes a snapshot. A body that does not fit its length field makes the source panic,
which is no snapshot here; so does a table with too many rows, whose body is longer still. -/
def encodeSnapshot (sm : ControlPlaneStateMachine) : Option (List UInt8) :=
  let body := sm.encodeCanonicalStateBody
  if body.length < 256 ^ 4 then some (snapshotFrame sm.stateRootDigest body) else none

def decodeSnapshotBody (body : List UInt8) : Except SnapshotCodecError SnapshotRows := do
  let (rows, rest) ← readSnapshotRows.run body
  if rest = [] then pure rows else throw .trailingBytes

def decodeSnapshot (bytes : List UInt8) : Except SnapshotCodecError ControlPlaneStateMachine :=
  if bytes.length < 8 + 32 + 4 + 32 then .error .truncated
  else if bytes.extract 0 8 ≠ snapshotMagic then .error .invalidMagic
  else
    let payloadEnd := bytes.length - 32
    if bytes.drop payloadEnd ≠
        (Sha256.digest (snapshotChecksumDomain ++ bytes.take payloadEnd)).bytes then
      .error .checksumMismatch
    else
      let declaredRoot : Digest := Word.ofBytes 32 (bytes.extract 8 40)
      let bodyLen := ofBeBytes (bytes.extract 40 44)
      if 44 + bodyLen ≠ payloadEnd then .error .trailingBytes
      else do
        let rows ← decodeSnapshotBody (bytes.extract 44 payloadEnd)
        let reconstructed := rows.stateMachine
        if reconstructed.stateRootDigest ≠ declaredRoot then throw .checksumMismatch
        else pure reconstructed

end ControlPlaneStateMachine

/-! ## What the decoder accepts -/

lemma decodes_readRows {ρ : Type} {readRow row} {P : ρ → Prop} (hrow : Decodes readRow row P) :
    Decodes (readRows readRow) (tableBytes row) fun rows =>
      rows.length < 256 ^ 4 ∧ ∀ v ∈ rows, P v := by
  refine decodes_of_reads_of_yields ?_ fun input => ?_
  · rintro rows ⟨hlen, hrows⟩
    have hcount : Reads snapshotLen (beBytes 4 rows.length) ⟨rows.length, hlen⟩ :=
      reads_readWord _ ⟨rows.length, hlen⟩
    rw [readRows, tableBytes, hcount.bind_iff]
    exact reads_readMany rows fun v hv => hrow.reads (hrows v hv)
  · rw [readRows, snapshotLen, yields_bind_iff, yields_readWord_iff]
    rintro count mid rfl
    rw [(decodes_readMany hrow count.val).yields_iff]
    rintro rows rest ⟨hcount, hrows⟩ rfl
    refine ⟨⟨hcount ▸ count.isLt, hrows⟩, ?_⟩
    rw [tableBytes, hcount, List.append_assoc]
    rfl

lemma decodes_readRows_of_true {ρ : Type} {readRow : SnapshotReader ρ}
    {row} (hrow : Decodes readRow row fun _ => True) :
    Decodes (readRows readRow) (tableBytes row) fun rows => rows.length < 256 ^ 4 := by
  simpa using decodes_readRows hrow

/-- Rows that a body can carry: their counts fit, and no endpoint has flow or scope. -/
structure SnapshotRows.Valid (r : SnapshotRows) : Prop where
  unscoped : ∀ entry ∈ r.cells, entry.endpointHint.map SocketAddr.onWire = entry.endpointHint
  cells : r.cells.length < 256 ^ 4
  quotaPools : r.quotaPools.length < 256 ^ 4
  quotaLeases : r.quotaLeases.length < 256 ^ 4
  capacityPools : r.capacityPools.length < 256 ^ 4
  capacityLeases : r.capacityLeases.length < 256 ^ 4
  deviceHeads : r.deviceHeads.length < 256 ^ 4
  fenceScopeHighWater : r.fenceScopeHighWater.length < 256 ^ 4
  taskShards : r.taskShards.length < 256 ^ 4
  takeoverReceipts : r.takeoverReceipts.length < 256 ^ 4
  migrationAnchors : r.migrationAnchors.length < 256 ^ 4
  checkpointAnchors : r.checkpointAnchors.length < 256 ^ 4
  dedupTable : r.dedupTable.length < 256 ^ 4

lemma decodes_readSnapshotRows :
    Decodes readSnapshotRows SnapshotRows.body SnapshotRows.Valid := by
  refine decodes_of_reads_of_yields (fun r hr => ?_) fun input => ?_
  · simp only [readSnapshotRows, SnapshotRows.body, List.append_assoc, reads_readWord_bind]
    rw [((decodes_readRows decodes_readCellRow).reads ⟨hr.cells, hr.unscoped⟩).bind_iff,
      ((decodes_readRows_of_true decodes_readQuotaPoolRow).reads hr.quotaPools).bind_iff,
      ((decodes_readRows_of_true decodes_readQuotaLeaseRow).reads hr.quotaLeases).bind_iff,
      ((decodes_readRows_of_true decodes_readCapacityPoolRow).reads hr.capacityPools).bind_iff,
      ((decodes_readRows_of_true decodes_readCapacityLeaseRow).reads hr.capacityLeases).bind_iff,
      ((decodes_readRows_of_true decodes_readDeviceHeadRow).reads hr.deviceHeads).bind_iff,
      ((decodes_readRows_of_true decodes_readFenceScopeRow).reads hr.fenceScopeHighWater).bind_iff,
      ((decodes_readRows_of_true decodes_readTaskShardRow).reads hr.taskShards).bind_iff,
      ((decodes_readRows_of_true decodes_readTakeoverRow).reads hr.takeoverReceipts).bind_iff,
      ((decodes_readRows_of_true decodes_readMigrationRow).reads hr.migrationAnchors).bind_iff,
      ((decodes_readRows_of_true decodes_readCheckpointRow).reads hr.checkpointAnchors).bind_iff,
      ((decodes_readRows_of_true decodes_readDedupRow).reads hr.dedupTable).bind_last_iff]
    exact Reads.pure r
  · simp only [readSnapshotRows, yields_bind_iff, yields_pure_iff, yields_readWord_iff,
      (decodes_readRows decodes_readCellRow).yields_iff,
      (decodes_readRows_of_true decodes_readQuotaPoolRow).yields_iff,
      (decodes_readRows_of_true decodes_readQuotaLeaseRow).yields_iff,
      (decodes_readRows_of_true decodes_readCapacityPoolRow).yields_iff,
      (decodes_readRows_of_true decodes_readCapacityLeaseRow).yields_iff,
      (decodes_readRows_of_true decodes_readDeviceHeadRow).yields_iff,
      (decodes_readRows_of_true decodes_readFenceScopeRow).yields_iff,
      (decodes_readRows_of_true decodes_readTaskShardRow).yields_iff,
      (decodes_readRows_of_true decodes_readTakeoverRow).yields_iff,
      (decodes_readRows_of_true decodes_readMigrationRow).yields_iff,
      (decodes_readRows_of_true decodes_readCheckpointRow).yields_iff,
      (decodes_readRows_of_true decodes_readDedupRow).yields_iff]
    intros
    subst_vars
    refine ⟨⟨?_, ?_, ?_, ?_, ?_, ?_, ?_, ?_, ?_, ?_, ?_, ?_, ?_⟩, ?_⟩
    case refine_14 => simp [SnapshotRows.body]
    all_goals simp_all

namespace ControlPlaneStateMachine

lemma decodeSnapshotBody_eq_ok_iff {body rows} :
    decodeSnapshotBody body = .ok rows ↔ rows.Valid ∧ body = rows.body := by
  have hexact := decodes_readSnapshotRows body
  constructor
  · intro h
    rw [decodeSnapshotBody] at h
    cases hrun : readSnapshotRows.run body with
    | error => simp [hrun, bind, Except.bind] at h
    | ok r =>
      obtain ⟨read, rest⟩ := r
      simp only [hrun, bind, Except.bind] at h
      split at h
      · next hrest =>
        cases h
        obtain ⟨hvalid, hbody⟩ := (hexact rows rest).mp hrun
        exact ⟨hvalid, by rw [hbody, hrest, List.append_nil]⟩
      · cases h
  · rintro ⟨hvalid, hbody⟩
    have hrun := (hexact rows []).mpr ⟨hvalid, by rw [hbody, List.append_nil]⟩
    rw [decodeSnapshotBody, hrun]
    rfl

@[simp] lemma length_snapshotMagic : snapshotMagic.length = 8 := by decide +kernel

/-- The declared root is compared with the root of the maps, never with the body. -/
lemma decodeSnapshot_snapshotFrame {rows : SnapshotRows} (hvalid : rows.Valid)
    (hlen : rows.body.length < 256 ^ 4) (root : Digest) :
    decodeSnapshot (snapshotFrame root rows.body) =
      if rows.stateMachine.stateRootDigest ≠ root then .error .checksumMismatch
      else .ok rows.stateMachine := by
  set head := snapshotMagic ++ root.bytes with hhead
  set out := head ++ beBytes 4 rows.body.length ++ rows.body with hout
  set sum := (Sha256.digest (snapshotChecksumDomain ++ out)).bytes with hsum
  have hframe : snapshotFrame root rows.body = out ++ sum := rfl
  have hheadlen : head.length = 40 := by simp [hhead]
  have hlength : out.length = 40 + 4 + rows.body.length := by
    rw [hout, List.length_append, List.length_append, hheadlen, length_beBytes]
  have hshort : ¬ (out ++ sum).length < 8 + 32 + 4 + 32 := by
    simp [hlength, hsum]
  have hend : (out ++ sum).length - 32 = out.length := by simp [hsum]
  have hmagic : (out ++ sum).extract 0 8 = snapshotMagic := by
    simp [hout, hhead, List.extract_eq_take_drop]
  have hroot : (out ++ sum).extract 8 40 = root.bytes := by
    simp [hout, hhead, List.extract_eq_take_drop]
  have hfield : ofBeBytes ((out ++ sum).extract 40 44) = rows.body.length := by
    have h := length_field_eq head sum hlen
    rwa [hheadlen] at h
  have hbody : (out ++ sum).extract 44 (40 + 4 + rows.body.length) = rows.body := by
    have h := body_eq head rows.body sum
    rwa [hheadlen] at h
  have htake : (out ++ sum).take out.length = out := by simp
  have hdrop : (out ++ sum).drop out.length = sum := by simp
  rw [hframe, decodeSnapshot, if_neg hshort, hmagic]
  simp only [hend, htake, hdrop, hroot, hfield, ne_eq, not_true_eq_false, if_false,
    Word.ofBytes_bytes]
  rw [hlength, hbody, decodeSnapshotBody_eq_ok_iff.mpr ⟨hvalid, rfl⟩]
  rw [if_neg (not_not.mpr hsum), if_neg (by omega)]
  simp only [bind, Except.bind, throw, throwThe, MonadExceptOf.throw, pure, Except.pure]

lemma exists_rows_of_decodeSnapshot (h : decodeSnapshot bytes = .ok sm) :
    ∃ rows : SnapshotRows, decodeSnapshotBody (bytes.extract 44 (bytes.length - 32)) = .ok rows ∧
      bytes = snapshotFrame sm.stateRootDigest rows.body ∧ rows.stateMachine = sm ∧
      rows.body.length < 256 ^ 4 := by
  unfold decodeSnapshot at h
  split at h
  · cases h
  next hlen =>
  split at h
  · cases h
  next hmagic =>
  dsimp only at h
  split at h
  · cases h
  next hsum =>
  split at h
  · cases h
  next hend =>
  rw [not_not] at hmagic hsum hend
  cases hrows : decodeSnapshotBody (bytes.extract 44 (bytes.length - 32)) with
  | error => simp [hrows, bind, Except.bind] at h
  | ok rows =>
    simp only [hrows, bind, Except.bind] at h
    split at h
    · cases h
    next hroot =>
    rw [not_not] at hroot
    cases h
    obtain ⟨-, hbody⟩ := decodeSnapshotBody_eq_ok_iff.mp hrows
    refine ⟨rows, rfl, ?_, rfl, ?_⟩
    · have hword : (bytes.extract 8 40).length = 32 := by
        rw [length_extract]
        omega
      have hstart : bytes.extract 0 8 = bytes.take 8 := rfl
      have hhead : bytes.take 40 = snapshotMagic ++ rows.stateMachine.stateRootDigest.bytes := by
        rw [hroot, Word.bytes_ofBytes hword, ← hmagic, hstart, take_append_extract (by decide)]
      have hout := take_eq_of_length_field (by omega) (by omega) hend
      rw [hhead, hbody] at hout
      have hsplit := List.take_append_drop (bytes.length - 32) bytes
      rw [hsum, hout] at hsplit
      exact hsplit.symm
    · have hfield : (bytes.extract 40 44).length = 4 := by
        rw [length_extract]
        omega
      have hlt := ofBeBytes_lt (bytes.extract 40 44)
      rw [hfield] at hlt
      rw [← hbody, length_extract]
      omega

end ControlPlaneStateMachine

end Nlos.Consensus
