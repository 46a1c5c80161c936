import Nlos.Consensus.Snapshot

/-!
# Snapshots of reachable state machines

A snapshot restores the state machine, unless the directory holds an endpoint with flow information
or scope, or the body is too long for its length field. In the other direction the decoder accepts
rows in any order and with repeated keys, so an accepted snapshot is canonical exactly when its rows
are in order.
-/

namespace Nlos.Consensus

open Lib List Table ControlPlaneStateMachine SnapshotRows

structure ControlPlaneTables.Keyed (t : ControlPlaneTables) : Prop where
  cells : Table.KeyedBy ReplicatedCellDirectoryEntry.cell t.cells
  quotaLeases : Table.KeyedBy ReplicatedQuotaLeaseEntry.leaseId t.quotaLeases
  capacityLeases : Table.KeyedBy ReplicatedCapacityLeaseEntry.capacityLeaseId t.capacityLeases
  deviceHeads : Table.KeyedBy ReplicatedDeviceHeadEntry.deviceId t.deviceHeads
  taskShards : Table.KeyedBy (fun ts : CommittedTaskAuthorityAssignment =>
    (ts.taskId, ts.taskGeneration)) t.taskShards
  takeoverReceipts : Table.KeyedBy CommittedTaskAuthorityTakeover.takeoverReceiptId
    t.takeoverReceipts
  migrationAnchors : Table.KeyedBy ReplicatedMigrationAnchor.intentId t.migrationAnchors
  checkpointAnchors : Table.KeyedBy (fun ca : ReplicatedCheckpointAnchor =>
    (ca.cell, ca.checkpointSeq.val)) t.checkpointAnchors

namespace ControlPlaneTables

variable {t : ControlPlaneTables} {logIndex term : NonZeroU64}

lemma keyed_empty : ({} : ControlPlaneTables).Keyed :=
  ⟨keyedBy_empty _, keyedBy_empty _, keyedBy_empty _, keyedBy_empty _,
    keyedBy_empty _, keyedBy_empty _, keyedBy_empty _, keyedBy_empty _⟩

lemma Keyed.applyCellDirectory (h : t.Keyed) (cmd : CellDirectoryCommand) :
    (t.applyCellDirectory logIndex cmd).1.Keyed := by
  cases cmd with
  | upsertCellEndpoint =>
    simp only [ControlPlaneTables.applyCellDirectory]
    split
    · exact h
    · exact { h with cells := h.cells.insert rfl }
  | advanceTrustPolicyEpoch =>
    simp only [ControlPlaneTables.applyCellDirectory]
    split
    · exact h
    · exact { h with }
  | decommissionCell cell =>
    simp only [ControlPlaneTables.applyCellDirectory]
    split
    · exact h
    next entry hentry =>
    split
    · exact h
    · have hkey : entry.cell = cell := h.cells cell entry hentry
      exact { h with cells := h.cells.insert hkey }

lemma Keyed.applyRootLeasePool (h : t.Keyed)
    (hr : t.applyRootLeasePool logIndex cmd = .ok r) : r.1.Keyed := by
  cases cmd with
  | registerQuotaPool =>
    cases hr
    simp only [ControlPlaneTables.registerQuotaPool]
    split
    · exact h
    · exact { h with }
  | allocateQuotaLease =>
    cases hr
    simp only [ControlPlaneTables.allocateQuotaLease]
    repeat' split
    all_goals first | exact h | exact { h with quotaLeases := h.quotaLeases.insert rfl }
  | settleOrQuarantineQuotaLease leaseId =>
    simp only [ControlPlaneTables.applyRootLeasePool,
      ControlPlaneTables.settleOrQuarantineQuotaLease] at hr
    split at hr
    · cases hr
      exact h
    next existing hexisting =>
    have hkey : existing.leaseId = leaseId := h.quotaLeases leaseId existing hexisting
    repeat' split at hr
    all_goals cases hr
    all_goals first | exact h | exact { h with quotaLeases := h.quotaLeases.insert hkey }
  | allocateCapacityLease =>
    cases hr
    simp only [ControlPlaneTables.allocateCapacityLease]
    repeat' split
    all_goals first
      | exact h
      | exact { h with }
      | exact { h with capacityLeases := h.capacityLeases.insert rfl }
  | transitionExclusiveDeviceHead =>
    cases hr
    simp only [ControlPlaneTables.transitionExclusiveDeviceHead]
    repeat' split
    all_goals first | exact h | exact { h with deviceHeads := h.deviceHeads.insert rfl }

lemma Keyed.applyTaskAuthorityShard (h : t.Keyed) (cmd : TaskAuthorityShardCommand) :
    (t.applyTaskAuthorityShard logIndex term cmd).1.Keyed := by
  cases cmd with
  | assignInitialAuthority =>
    simp only [ControlPlaneTables.applyTaskAuthorityShard]
    split
    · exact h
    · exact { h with taskShards := h.taskShards.insert rfl }
  | recordCompletedTakeover =>
    simp only [ControlPlaneTables.applyTaskAuthorityShard]
    repeat' split
    all_goals first
      | exact h
      | exact { h with
          taskShards := h.taskShards.insert rfl
          takeoverReceipts := h.takeoverReceipts.insert rfl }

lemma Keyed.applyControlPlaneAudit (h : t.Keyed) (cmd : ControlPlaneAuditCommand) :
    (t.applyControlPlaneAudit logIndex cmd).1.Keyed := by
  cases cmd with
  | anchorMigrationIntent =>
    simp only [ControlPlaneTables.applyControlPlaneAudit]
    split
    · exact h
    · exact { h with migrationAnchors := h.migrationAnchors.insert rfl }
  | anchorReconciliationCheckpoint =>
    simp only [ControlPlaneTables.applyControlPlaneAudit]
    repeat' split
    all_goals first
      | exact h
      | exact { h with checkpointAnchors := h.checkpointAnchors.insert rfl }

lemma Keyed.applyInner (h : t.Keyed)
    (hr : t.applyInner logIndex term cmd = .ok r) : r.1.Keyed := by
  rcases cmd with cmd | cmd | cmd | cmd
  · cases hr
    exact h.applyCellDirectory cmd
  · exact h.applyRootLeasePool hr
  · cases hr
    exact h.applyTaskAuthorityShard cmd
  · cases hr
    exact h.applyControlPlaneAudit cmd

end ControlPlaneTables

variable {sm : ControlPlaneStateMachine}

lemma keyed_of_applies (hrun : Applies h sm) : sm.Keyed := by
  refine hrun.invariant (P := fun sm => sm.Keyed) ControlPlaneTables.keyed_empty
    fun hkeyed hf => ?_
  obtain ⟨-, hstep⟩ := entryStep_of_apply hf
  cases hstep with
  | replayed => exact hkeyed
  | executed _ hinner => exact hkeyed.applyInner hinner

/-! ## Rows and maps -/

structure SnapshotRows.Ascending (r : SnapshotRows) : Prop where
  cells : Table.Ascending compare (r.cells.map ReplicatedCellDirectoryEntry.entry)
  quotaPools : Table.Ascending compare (r.quotaPools.map id)
  quotaLeases : Table.Ascending compare (r.quotaLeases.map ReplicatedQuotaLeaseEntry.entry)
  capacityPools : Table.Ascending compare (r.capacityPools.map id)
  capacityLeases : Table.Ascending compare
    (r.capacityLeases.map ReplicatedCapacityLeaseEntry.entry)
  deviceHeads : Table.Ascending compare (r.deviceHeads.map ReplicatedDeviceHeadEntry.entry)
  fenceScopeHighWater : Table.Ascending compare (r.fenceScopeHighWater.map id)
  taskShards : Table.Ascending (@compare _ lexOrd)
    (r.taskShards.map CommittedTaskAuthorityAssignment.entry)
  takeoverReceipts : Table.Ascending compare
    (r.takeoverReceipts.map CommittedTaskAuthorityTakeover.entry)
  migrationAnchors : Table.Ascending compare
    (r.migrationAnchors.map ReplicatedMigrationAnchor.entry)
  checkpointAnchors : Table.Ascending (@compare _ lexOrd)
    (r.checkpointAnchors.map ReplicatedCheckpointAnchor.entry)
  dedupTable : Table.Ascending compare (r.dedupTable.map id)

lemma ControlPlaneTables.Keyed.stateMachine_rows (h : sm.Keyed) : sm.rows.stateMachine = sm := by
  have hcells := ofRows_values h.cells
  have hquotaLeases := ofRows_values h.quotaLeases
  have hcapacityLeases := ofRows_values h.capacityLeases
  have hdeviceHeads := ofRows_values h.deviceHeads
  have htaskShards := ofRows_values h.taskShards
  have htakeoverReceipts := ofRows_values h.takeoverReceipts
  have hmigrationAnchors := ofRows_values h.migrationAnchors
  have hcheckpointAnchors := ofRows_values h.checkpointAnchors
  obtain ⟨tables, _, _, _, dedupTable⟩ := sm
  obtain ⟨_, _, _, _, _, _, _, _, _, _, _, _, _⟩ := tables
  simp only [stateMachine, rows, ofRows_toList]
  congr

lemma SnapshotRows.keyed_stateMachine (r : SnapshotRows) : r.stateMachine.Keyed :=
  ⟨keyedBy_ofRows _ _, keyedBy_ofRows _ _, keyedBy_ofRows _ _,
    keyedBy_ofRows _ _, keyedBy_ofRows _ _, keyedBy_ofRows _ _,
    keyedBy_ofRows _ _, keyedBy_ofRows _ _⟩

lemma ControlPlaneTables.Keyed.ascending_rows (h : sm.Keyed) : sm.rows.Ascending where
  cells := h.cells.map_values ▸ ascending_toList sm.cells
  quotaPools := (map_id _).symm ▸ ascending_toList sm.quotaPools
  quotaLeases := h.quotaLeases.map_values ▸ ascending_toList sm.quotaLeases
  capacityPools := (map_id _).symm ▸ ascending_toList sm.capacityPools
  capacityLeases := h.capacityLeases.map_values ▸ ascending_toList sm.capacityLeases
  deviceHeads := h.deviceHeads.map_values ▸ ascending_toList sm.deviceHeads
  fenceScopeHighWater := (map_id _).symm ▸ ascending_toList sm.fenceScopeHighWater
  taskShards := h.taskShards.map_values ▸ ascending_toList sm.taskShards
  takeoverReceipts := h.takeoverReceipts.map_values ▸ ascending_toList sm.takeoverReceipts
  migrationAnchors := h.migrationAnchors.map_values ▸ ascending_toList sm.migrationAnchors
  checkpointAnchors :=
    h.checkpointAnchors.map_values ▸ ascending_toList sm.checkpointAnchors
  dedupTable := (map_id _).symm ▸ ascending_toList sm.dedupTable

lemma SnapshotRows.Ascending.rows_stateMachine {r : SnapshotRows} (h : r.Ascending) :
    r.stateMachine.rows = r := by
  have hcells := values_ofRows h.cells
  have hquotaPools := toList_ofRows h.quotaPools
  have hquotaLeases := values_ofRows h.quotaLeases
  have hcapacityPools := toList_ofRows h.capacityPools
  have hcapacityLeases := values_ofRows h.capacityLeases
  have hdeviceHeads := values_ofRows h.deviceHeads
  have hfences := toList_ofRows h.fenceScopeHighWater
  have htaskShards := values_ofRows h.taskShards
  have htakeoverReceipts := values_ofRows h.takeoverReceipts
  have hmigrationAnchors := values_ofRows h.migrationAnchors
  have hcheckpointAnchors := values_ofRows h.checkpointAnchors
  have hdedupTable := toList_ofRows h.dedupTable
  rw [map_id] at hquotaPools hcapacityPools hfences hdedupTable
  obtain ⟨_, _, _, _, _, _, _, _, _, _, _, _, _, _, _, _, _⟩ := r
  simp only [stateMachine, rows]
  congr

lemma length_le_tableBytes {ρ : Type} (row : ρ → List UInt8) (hrow : ∀ v, 0 < (row v).length)
    (rows : List ρ) : rows.length ≤ (tableBytes row rows).length := by
  have hflat : rows.length ≤ (rows.flatMap row).length := by
    induction rows with
    | nil => simp
    | cons v =>
      have hpos := hrow v
      rw [flatMap_cons, length_append, length_cons]
      omega
  rw [tableBytes, length_append]
  omega

lemma SnapshotRows.valid_of_body_lt {r : SnapshotRows} (hlen : r.body.length < 256 ^ 4)
    (hhints : ∀ entry ∈ r.cells, entry.endpointHint.map SocketAddr.onWire = entry.endpointHint) :
    r.Valid := by
  have hcells := length_le_tableBytes ReplicatedCellDirectoryEntry.row
    (by simp [ReplicatedCellDirectoryEntry.row]) r.cells
  have hquotaPools := length_le_tableBytes quotaPoolRow (by simp [quotaPoolRow]) r.quotaPools
  have hquotaLeases := length_le_tableBytes ReplicatedQuotaLeaseEntry.row
    (by simp [ReplicatedQuotaLeaseEntry.row]) r.quotaLeases
  have hcapacityPools := length_le_tableBytes capacityPoolRow
    (by simp [capacityPoolRow]) r.capacityPools
  have hcapacityLeases := length_le_tableBytes ReplicatedCapacityLeaseEntry.row
    (by simp [ReplicatedCapacityLeaseEntry.row]) r.capacityLeases
  have hdeviceHeads := length_le_tableBytes ReplicatedDeviceHeadEntry.row
    (by simp [ReplicatedDeviceHeadEntry.row]) r.deviceHeads
  have hfenceScopeHighWater := length_le_tableBytes fenceScopeRow
    (by simp [fenceScopeRow]) r.fenceScopeHighWater
  have htaskShards := length_le_tableBytes CommittedTaskAuthorityAssignment.row
    (by simp [CommittedTaskAuthorityAssignment.row]) r.taskShards
  have htakeoverReceipts := length_le_tableBytes CommittedTaskAuthorityTakeover.row
    (by simp [CommittedTaskAuthorityTakeover.row]) r.takeoverReceipts
  have hmigrationAnchors := length_le_tableBytes ReplicatedMigrationAnchor.row
    (by simp [ReplicatedMigrationAnchor.row]) r.migrationAnchors
  have hcheckpointAnchors := length_le_tableBytes ReplicatedCheckpointAnchor.row
    (by simp [ReplicatedCheckpointAnchor.row]) r.checkpointAnchors
  have hdedupTable := length_le_tableBytes dedupRow (by simp [dedupRow]) r.dedupTable
  simp only [body, length_append] at hlen
  exact ⟨hhints, by omega, by omega, by omega, by omega, by omega, by omega, by omega, by omega,
    by omega, by omega, by omega, by omega⟩

namespace ControlPlaneStateMachine

variable {sm : ControlPlaneStateMachine}

/-- What a snapshot can carry: no directory entry has an endpoint with flow information or
scope, and the body fits its length field. -/
structure Portable (sm : ControlPlaneStateMachine) : Prop where
  unscoped : ∀ (cell : CellIdentity) (entry : ReplicatedCellDirectoryEntry),
    sm.cells[cell]? = some entry → ∀ addr ∈ entry.endpointHint, addr.Unscoped
  fits : sm.encodeCanonicalStateBody.length < 256 ^ 4

lemma encodeSnapshot_eq_some_iff :
    sm.encodeSnapshot = some bytes ↔ sm.encodeCanonicalStateBody.length < 256 ^ 4 ∧
      bytes = snapshotFrame sm.stateRootDigest sm.encodeCanonicalStateBody := by
  rw [encodeSnapshot]
  split
  · next hlen => rw [Option.some.injEq, eq_comm, and_iff_right hlen]
  · next hlen => simp only [reduceCtorEq, hlen, false_and]

lemma exists_snapshot_iff (hkeyed : sm.Keyed) :
    (∃ bytes, sm.encodeSnapshot = some bytes ∧ decodeSnapshot bytes = .ok sm) ↔ sm.Portable := by
  constructor
  · rintro ⟨bytes, hencode, hdecode⟩
    refine ⟨fun cell entry hentry => ?_, (encodeSnapshot_eq_some_iff.mp hencode).1⟩
    obtain ⟨rows, hrows, -, rfl, -⟩ := exists_rows_of_decodeSnapshot hdecode
    obtain ⟨row, hrow, hkey⟩ := mem_of_ofRows hentry
    cases hkey
    exact (map_onWire_eq_self_iff _).mp
      ((decodeSnapshotBody_eq_ok_iff.mp hrows).1.unscoped _ hrow)
  · rintro ⟨hunscoped, hfits⟩
    have hvalid : sm.rows.Valid := by
      refine valid_of_body_lt hfits fun entry hmem => ?_
      obtain ⟨e, he, rfl⟩ := mem_map.mp hmem
      exact (map_onWire_eq_self_iff _).mpr
        (hunscoped e.1 e.2 (Std.ExtTreeMap.mem_toList_iff_getElem?_eq_some.mp he))
    refine ⟨_, encodeSnapshot_eq_some_iff.mpr ⟨hfits, rfl⟩, ?_⟩
    have hframe := decodeSnapshot_snapshotFrame hvalid hfits sm.stateRootDigest
    rwa [hkeyed.stateMachine_rows, if_neg (not_not.mpr rfl)] at hframe

end ControlPlaneStateMachine

/-- At every index of a log the snapshot restores the state machine exactly when it can carry
it, and then the rest of the log leads from the restored state to the same end. -/
theorem snapshot_restores_iff {h rest : List ApplyEvent} {sm final : ControlPlaneStateMachine}
    (hrun : Applies h sm) (hrest : Run ControlPlaneStateMachine.applyCommittedEntry sm rest final) :
    ((∃ bytes, sm.encodeSnapshot = some bytes ∧
        ControlPlaneStateMachine.decodeSnapshot bytes = .ok sm) ↔ sm.Portable) ∧
    (sm.Portable → ∃ bytes restored, sm.encodeSnapshot = some bytes ∧
      ControlPlaneStateMachine.decodeSnapshot bytes = .ok restored ∧
      Run ControlPlaneStateMachine.applyCommittedEntry restored rest final) := by
  have hiff := ControlPlaneStateMachine.exists_snapshot_iff (keyed_of_applies hrun)
  refine ⟨hiff, fun hportable => ?_⟩
  obtain ⟨bytes, hencode, hdecode⟩ := hiff.mpr hportable
  exact ⟨bytes, sm, hencode, hdecode, hrest⟩

/-- The first entry of a log, which puts a cell with the given hint into the directory. -/
def upsertAt (hint : SocketAddr) : CommittedEntry :=
  ⟨⟨1, one_ne_zero_u64⟩, ⟨1, one_ne_zero_u64⟩, ⟨1, .cellDirectoryMutation (.upsertCellEndpoint 1 1 1
    ⟨1, one_ne_zero_u64⟩ ⟨1, one_ne_zero_u64⟩ 0 (some hint))⟩⟩

def directoryOf (hint : SocketAddr) : ControlPlaneStateMachine :=
  match ControlPlaneStateMachine.new.applyCommittedEntry (upsertAt hint) with
  | .ok (sm, _) => sm
  | .error _ => .new

lemma applies_upsertAt (hint : SocketAddr) :
    Applies [⟨.new, upsertAt hint, .applied ⟨1, by decide⟩ false⟩] (directoryOf hint) :=
  Run.single rfl

lemma portable_directoryOf_v4 : (directoryOf (.v4 0x0a000001 4433)).Portable := by
  refine ⟨fun cell entry hentry addr haddr => ?_, by decide +kernel⟩
  change (({} : Std.ExtTreeMap _ _ _).insert 1 _)[cell]? = some entry at hentry
  rw [Std.ExtTreeMap.getElem?_insert] at hentry
  split at hentry
  · cases hentry
    cases haddr
    trivial
  · simp at hentry

theorem snapshot_restores_ipv4 : ∃ bytes,
    (directoryOf (.v4 0x0a000001 4433)).encodeSnapshot = some bytes ∧
      ControlPlaneStateMachine.decodeSnapshot bytes = .ok (directoryOf (.v4 0x0a000001 4433)) :=
  (snapshot_restores_iff (applies_upsertAt _) .refl).1.mpr portable_directoryOf_v4

/-- A cell that is reached at a link-local address loses its scope in a snapshot. -/
theorem snapshot_drops_scope : ∃ h sm bytes, Applies h sm ∧ sm.encodeSnapshot = some bytes ∧
    ControlPlaneStateMachine.decodeSnapshot bytes ≠ .ok sm := by
  have hrun := applies_upsertAt (.v6 0xfe80_0000_0000_0000_0000_0000_0000_0001 4433 0 2)
  have hfits : (directoryOf (.v6 0xfe80_0000_0000_0000_0000_0000_0000_0001 4433 0
      2)).encodeCanonicalStateBody.length < 256 ^ 4 := by
    decide +kernel
  have hencode := ControlPlaneStateMachine.encodeSnapshot_eq_some_iff.mpr ⟨hfits, rfl⟩
  refine ⟨_, _, _, hrun, hencode, fun hdecode => ?_⟩
  have hportable := (ControlPlaneStateMachine.exists_snapshot_iff (keyed_of_applies hrun)).mp
    ⟨_, hencode, hdecode⟩
  have hscope := hportable.unscoped 1 _ rfl _ rfl
  exact absurd hscope.2 (by decide)

namespace ControlPlaneStateMachine

lemma snapshotFrame_injective {root body body'}
    (h : snapshotFrame root body = snapshotFrame root body') : body = body' := by
  have hlength := congrArg List.length h
  simp only [snapshotFrame, length_append, Word.length_bytes, length_beBytes] at hlength
  simp only [snapshotFrame] at h
  have hout := (append_inj h (by simp only [length_append, length_beBytes]; omega)).1
  exact (append_inj hout (by simp)).2

lemma rows_eq_of_body_eq {r r' : SnapshotRows} (hr : r.Valid) (hr' : r'.Valid)
    (h : r.body = r'.body) : r = r' := by
  have hleft := decodeSnapshotBody_eq_ok_iff.mpr ⟨hr, rfl⟩
  have hright := decodeSnapshotBody_eq_ok_iff.mpr ⟨hr', rfl⟩
  rw [h, hright] at hleft
  exact (Except.ok.inj hleft).symm

end ControlPlaneStateMachine

/-- An accepted snapshot is the snapshot of its state machine exactly when the rows of every
table stand in strictly ascending key order. -/
theorem snapshot_canonical_iff {bytes : List UInt8} {sm : ControlPlaneStateMachine}
    (h : ControlPlaneStateMachine.decodeSnapshot bytes = .ok sm) :
    sm.encodeSnapshot = some bytes ↔ ∀ rows,
      ControlPlaneStateMachine.decodeSnapshotBody (bytes.extract 44 (bytes.length - 32)) =
        .ok rows → rows.Ascending := by
  obtain ⟨rows, hrows, hbytes, rfl, hlen⟩ :=
    ControlPlaneStateMachine.exists_rows_of_decodeSnapshot h
  have hvalid := (ControlPlaneStateMachine.decodeSnapshotBody_eq_ok_iff.mp hrows).1
  rw [hrows, ControlPlaneStateMachine.encodeSnapshot_eq_some_iff]
  constructor
  · rintro ⟨hfits, heq⟩ read hread
    cases hread
    rw [hbytes] at heq
    have hbody : rows.body = rows.stateMachine.rows.body :=
      ControlPlaneStateMachine.snapshotFrame_injective heq
    have hcanonical : rows.stateMachine.rows.Valid := by
      refine SnapshotRows.valid_of_body_lt (hbody ▸ hlen) fun entry hmem => ?_
      obtain ⟨⟨cell, entry⟩, he, rfl⟩ := mem_map.mp hmem
      obtain ⟨row, hrow, hkey⟩ :=
        Table.mem_of_ofRows (Std.ExtTreeMap.mem_toList_iff_getElem?_eq_some.mp he)
      cases hkey
      exact hvalid.unscoped _ hrow
    rw [ControlPlaneStateMachine.rows_eq_of_body_eq hvalid hcanonical hbody]
    exact rows.keyed_stateMachine.ascending_rows
  · intro hascending
    have hbody : rows.stateMachine.encodeCanonicalStateBody = rows.body := by
      rw [ControlPlaneStateMachine.encodeCanonicalStateBody,
        (hascending rows rfl).rows_stateMachine]
    rw [hbody]
    exact ⟨hlen, hbytes⟩

def poolRows (pools : List (Word 16 × QuotaPoolBalance)) : SnapshotRows :=
  { ControlPlaneStateMachine.new.rows with quotaPools := pools }

def poolSnapshot (pools : List (Word 16 × QuotaPoolBalance)) : List UInt8 :=
  ControlPlaneStateMachine.snapshotFrame (poolRows pools).stateMachine.stateRootDigest
    (poolRows pools).body

lemma decodeSnapshot_poolSnapshot
    (hlen : (poolRows pools).body.length < 256 ^ 4) :
    decodeSnapshot (poolSnapshot pools) =
      .ok (poolRows pools).stateMachine := by
  have hvalid : (poolRows pools).Valid := valid_of_body_lt hlen (by
    intro entry hmem
    cases hmem)
  rw [poolSnapshot, decodeSnapshot_snapshotFrame hvalid hlen,
    if_neg (not_not.mpr rfl)]

theorem snapshot_canonical_one_pool :
    ControlPlaneStateMachine.decodeSnapshot (poolSnapshot [(1, ⟨5, 0, 0⟩)]) =
      .ok (poolRows [(1, ⟨5, 0, 0⟩)]).stateMachine ∧
    ∀ rows, ControlPlaneStateMachine.decodeSnapshotBody ((poolSnapshot
      [(1, ⟨5, 0, 0⟩)]).extract 44 ((poolSnapshot [(1, ⟨5, 0, 0⟩)]).length - 32)) = .ok rows →
        rows.Ascending := by
  have hdecode : ControlPlaneStateMachine.decodeSnapshot (poolSnapshot [(1, ⟨5, 0, 0⟩)]) =
      .ok (poolRows [(1, ⟨5, 0, 0⟩)]).stateMachine :=
    decodeSnapshot_poolSnapshot (by decide +kernel)
  have hbody : (poolRows [(1, ⟨5, 0, 0⟩)]).stateMachine.encodeCanonicalStateBody =
      (poolRows [(1, ⟨5, 0, 0⟩)]).body := by
    decide +kernel
  refine ⟨hdecode, (snapshot_canonical_iff hdecode).mp ?_⟩
  refine ControlPlaneStateMachine.encodeSnapshot_eq_some_iff.mpr ⟨by decide +kernel, ?_⟩
  rw [poolSnapshot, hbody]

/-- A pool that is listed twice is accepted, and the second row wins. -/
theorem snapshot_repeated_key :
    ControlPlaneStateMachine.decodeSnapshot (poolSnapshot [(1, ⟨7, 0, 0⟩), (1, ⟨5, 0, 0⟩)]) =
      .ok (poolRows [(1, ⟨5, 0, 0⟩)]).stateMachine ∧
    (poolRows [(1, ⟨5, 0, 0⟩)]).stateMachine.encodeSnapshot ≠
      some (poolSnapshot [(1, ⟨7, 0, 0⟩), (1, ⟨5, 0, 0⟩)]) := by
  have hsame : (poolRows [(1, ⟨7, 0, 0⟩), (1, ⟨5, 0, 0⟩)]).stateMachine =
      (poolRows [(1, ⟨5, 0, 0⟩)]).stateMachine := by
    decide +kernel
  have hbody : (poolRows [(1, ⟨5, 0, 0⟩)]).stateMachine.encodeCanonicalStateBody.length ≠
      (poolRows [(1, ⟨7, 0, 0⟩), (1, ⟨5, 0, 0⟩)]).body.length := by
    decide +kernel
  refine ⟨hsame ▸ decodeSnapshot_poolSnapshot (by decide +kernel), fun hencode => hbody ?_⟩
  have hframe := (ControlPlaneStateMachine.encodeSnapshot_eq_some_iff.mp hencode).2
  rw [poolSnapshot, hsame] at hframe
  rw [ControlPlaneStateMachine.snapshotFrame_injective hframe]

end Nlos.Consensus
