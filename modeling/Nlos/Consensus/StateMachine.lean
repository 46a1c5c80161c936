import Nlos.Consensus.CommandCodec
import Nlos.Lib.Run
import Nlos.Lib.Table

/-!
# The replicated control-plane state machine

Committed proposals are applied in log order. A command either updates the domain tables or
is rejected with a reason; the verdict of the first occurrence of an idempotency key is kept
in the dedup table. An assertion or `expect` that fails in the source is an error here.
-/

namespace Nlos.Consensus

open Lib

structure ReplicatedCellDirectoryEntry where
  cell : CellIdentity
  controlDomainId : ControlDomainId
  principalId : PrincipalId
  nodeBootGeneration : Generation
  epoch : CellEpoch
  heartbeatSeq : U64
  endpointHint : Option SocketAddr
  decommissioned : Bool
  updatedAtCommitIndex : NonZeroU64
deriving DecidableEq

structure ReplicatedQuotaLeaseEntry where
  leaseId : QuotaLeaseId
  budgetRoot : Word 16
  holderCell : CellIdentity
  nodeBootGeneration : Generation
  (faceValue returnedAmount quarantinedAmount : U64)
  epoch : CellEpoch
  fencingToken : CellFencingToken
  fenceScope : Word 16
  disposition : ReplicatedQuotaLeaseDisposition
  committedAtIndex : NonZeroU64
deriving DecidableEq

structure ReplicatedCapacityLeaseEntry where
  capacityLeaseId : CapacityLeaseId
  poolId : Word 16
  targetCell : CellIdentity
  targetBootGeneration : Generation
  amount : U64
  capacityEpoch : NonZeroU64
  fencingToken : CellFencingToken
  committedAtIndex : NonZeroU64
deriving DecidableEq

structure ReplicatedDeviceHeadEntry where
  deviceId : DeviceId
  deviceLeaseId : ExclusiveDeviceLeaseId
  exclusivityEpoch : NonZeroU64
  holderCell : Option CellIdentity
  fencingToken : CellFencingToken
  state : ReplicatedDeviceHeadState
  committedAtIndex : NonZeroU64
deriving DecidableEq

structure CommittedTaskAuthorityAssignment where
  assignmentId : TaskAuthorityAssignmentId
  taskId : TaskId
  taskGeneration : Generation
  authorityShard : Word 16
  homeCell : CellIdentity
  authorityTerm : NonZeroU64
  (controlEpoch participantRegistryGeneration : U64)
  participantRegistryRoot : Digest
  (consensusCommitIndex consensusTerm : NonZeroU64)
deriving DecidableEq

structure CommittedTaskAuthorityTakeover where
  takeoverReceiptId : ReceiptId
  taskId : TaskId
  taskGeneration : Generation
  (oldAssignmentId newAssignmentId : TaskAuthorityAssignmentId)
  (frozenOldAuthorityTerm newAuthorityTerm : NonZeroU64)
  newHomeCell : CellIdentity
  newControlEpoch : U64
  exactFenceSetRoot : Digest
  outstandingEffectQuarantineRoot : Option Digest
  (consensusCommitIndex consensusTerm : NonZeroU64)
deriving DecidableEq

structure ReplicatedMigrationAnchor where
  intentId : Word 16
  (sourceCell targetCell : CellIdentity)
  epoch : CellEpoch
  intentDigest : Digest
  consensusCommitIndex : NonZeroU64
deriving DecidableEq

structure ReplicatedCheckpointAnchor where
  cell : CellIdentity
  nodeBootGeneration : Generation
  epoch : CellEpoch
  checkpointSeq : NonZeroU64
  checkpointDigest : Digest
  consensusCommitIndex : NonZeroU64
deriving DecidableEq

inductive ControlPlaneDomainRejection where
  | idempotencyKeyPayloadConflict
  | staleCellRoutingVersion
  | staleTrustPolicyEpoch
  | insufficientOrInvalidPoolBalance
  | nonMonotonicFencingToken
  | invalidLeaseSettlement
  | deviceExclusivityViolation
  | taskAuthorityCasConflict
  | auditAnchorConflict
deriving DecidableEq

inductive AppliedProposalOutcome where
  | applied (consensusCommitIndex : NonZeroU64) (idempotentReplay : Bool)
  | domainRejected (consensusCommitIndex : NonZeroU64) (reason : ControlPlaneDomainRejection)
deriving DecidableEq

structure DedupRecord where
  proposalDigest : Digest
  committedIndex : NonZeroU64
  rejection : Option ControlPlaneDomainRejection
deriving DecidableEq

structure QuotaPoolBalance where
  (available leasedActive quarantined : U64)
deriving DecidableEq

structure CapacityPoolBalance where
  (totalCapacity committed : U64)
deriving DecidableEq

instance transOrd_scope : @Std.TransOrd (TaskId × Generation) lexOrd := inferInstance

structure ControlPlaneTables where
  trustPolicyEpoch : U64 := 0
  trustPolicyDigest : Digest := 0
  cells : Table CellIdentity ReplicatedCellDirectoryEntry := ∅
  quotaPools : Table (Word 16) QuotaPoolBalance := ∅
  quotaLeases : Table QuotaLeaseId ReplicatedQuotaLeaseEntry := ∅
  capacityPools : Table (Word 16) CapacityPoolBalance := ∅
  capacityLeases : Table CapacityLeaseId ReplicatedCapacityLeaseEntry := ∅
  deviceHeads : Table DeviceId ReplicatedDeviceHeadEntry := ∅
  fenceScopeHighWater : Table (Word 16) CellFencingToken := ∅
  taskShards : PairTable TaskId Generation CommittedTaskAuthorityAssignment := ∅
  takeoverReceipts : Table ReceiptId CommittedTaskAuthorityTakeover := ∅
  migrationAnchors : Table (Word 16) ReplicatedMigrationAnchor := ∅
  checkpointAnchors : PairTable CellIdentity U64 ReplicatedCheckpointAnchor := ∅
deriving DecidableEq

structure ControlPlaneStateMachine extends ControlPlaneTables where
  lastAppliedIndex : U64 := 0
  lastAppliedTerm : U64 := 0
  authorityReceiptHighWater : U64 := 0
  dedupTable : Table IdempotencyKey DedupRecord := ∅
deriving DecidableEq

def ControlPlaneStateMachine.new : ControlPlaneStateMachine := {}

abbrev CommandResult := ControlPlaneTables × Option ControlPlaneDomainRejection

namespace ControlPlaneTables

def accept (t : ControlPlaneTables) : CommandResult := (t, none)

def reject (t : ControlPlaneTables) (reason : ControlPlaneDomainRejection) : CommandResult :=
  (t, some reason)

abbrev routingVersion (generation : Generation) (epoch : CellEpoch) (heartbeatSeq : U64) :
    Generation ×ₗ CellEpoch ×ₗ U64 :=
  toLex (generation, toLex (epoch, heartbeatSeq))

def applyCellDirectory (t : ControlPlaneTables) (logIndex : NonZeroU64) :
    CellDirectoryCommand → CommandResult
  | .upsertCellEndpoint cell controlDomainId principalId nodeBootGeneration epoch heartbeatSeq
      endpointHint =>
      if t.cells[cell]?.any (fun prev => prev.decommissioned ∨
          routingVersion nodeBootGeneration epoch heartbeatSeq ≤
            routingVersion prev.nodeBootGeneration prev.epoch prev.heartbeatSeq) then
        t.reject .staleCellRoutingVersion
      else
        accept { t with
          cells := t.cells.insert cell
            { cell, controlDomainId, principalId, nodeBootGeneration, epoch, heartbeatSeq,
              endpointHint, decommissioned := false, updatedAtCommitIndex := logIndex } }
  | .advanceTrustPolicyEpoch newTrustEpoch policyDigest =>
    if newTrustEpoch ≤ t.trustPolicyEpoch then t.reject .staleTrustPolicyEpoch
    else accept { t with trustPolicyEpoch := newTrustEpoch, trustPolicyDigest := policyDigest }
  | .decommissionCell cell fencedEpoch =>
    match t.cells[cell]? with
    | none => t.reject .staleCellRoutingVersion
    | some entry =>
      if fencedEpoch < entry.epoch then t.reject .staleCellRoutingVersion
      else
        accept { t with
          cells := t.cells.insert cell
            { entry with
              epoch := fencedEpoch, endpointHint := none, decommissioned := true
              updatedAtCommitIndex := logIndex } }

def registerQuotaPool (t : ControlPlaneTables) (budgetRoot : Word 16) (initialAvailable : U64) :
    CommandResult :=
  if t.quotaPools.contains budgetRoot then t.reject .insufficientOrInvalidPoolBalance
  else
    accept { t with quotaPools := t.quotaPools.insert budgetRoot ⟨initialAvailable, 0, 0⟩ }

def allocateQuotaLease (t : ControlPlaneTables) (logIndex : NonZeroU64) (leaseId : QuotaLeaseId)
    (budgetRoot : Word 16) (holderCell : CellIdentity) (nodeBootGeneration : Generation)
    (faceValue : U64) (epoch : CellEpoch) (fencingToken : CellFencingToken)
    (fenceScope : Word 16) : CommandResult :=
  if t.quotaLeases.contains leaseId ∨ faceValue = 0 then
    t.reject .insufficientOrInvalidPoolBalance
  else if t.fenceScopeHighWater[fenceScope]?.any (fun prevTok => fencingToken ≤ prevTok) then
    t.reject .nonMonotonicFencingToken
  else
    match t.quotaPools[budgetRoot]? with
    | none => t.reject .insufficientOrInvalidPoolBalance
    | some pool =>
      if pool.available < faceValue then t.reject .insufficientOrInvalidPoolBalance
      else
        accept { t with
          quotaPools := t.quotaPools.insert budgetRoot
            { pool with
              available := pool.available - faceValue
              leasedActive := Word.saturatingAdd pool.leasedActive faceValue }
          fenceScopeHighWater := t.fenceScopeHighWater.insert fenceScope fencingToken
          quotaLeases := t.quotaLeases.insert leaseId
            { leaseId, budgetRoot, holderCell, nodeBootGeneration, faceValue,
              returnedAmount := 0, quarantinedAmount := 0, epoch, fencingToken, fenceScope,
              disposition := .active, committedAtIndex := logIndex } }

/-- Settling a lease needs its pool; the source expects it to be registered. -/
def settleOrQuarantineQuotaLease (t : ControlPlaneTables) (logIndex : NonZeroU64)
    (leaseId : QuotaLeaseId) (disposition : ReplicatedQuotaLeaseDisposition)
    (returnedAmount quarantinedAmount : U64) (newEpoch : CellEpoch)
    (newFencingToken : CellFencingToken) : Except String CommandResult :=
  match t.quotaLeases[leaseId]? with
  | none => .ok (t.reject .invalidLeaseSettlement)
  | some existing =>
    if existing.disposition ≠ .active ∨ disposition = .active then
      .ok (t.reject .invalidLeaseSettlement)
    else if newEpoch < existing.epoch then .ok (t.reject .invalidLeaseSettlement)
    else if t.fenceScopeHighWater[existing.fenceScope]?.any
        (fun prevTok => newFencingToken ≤ prevTok) then
      .ok (t.reject .nonMonotonicFencingToken)
    else
      match Word.checkedAdd returnedAmount quarantinedAmount with
      | none => .ok (t.reject .invalidLeaseSettlement)
      | some totalAccounted =>
        if totalAccounted > existing.faceValue then
          .ok (t.reject .invalidLeaseSettlement)
        else if disposition = .quarantined ∧ returnedAmount ≠ 0 then
          .ok (t.reject .invalidLeaseSettlement)
        else
          match t.quotaPools[existing.budgetRoot]? with
          | none => .error "registered budget_root"
          | some pool =>
            .ok (accept { t with
              quotaPools := t.quotaPools.insert existing.budgetRoot
                { available := Word.saturatingAdd pool.available returnedAmount
                  leasedActive := Word.saturatingSub pool.leasedActive existing.faceValue
                  quarantined := Word.saturatingAdd pool.quarantined quarantinedAmount }
              fenceScopeHighWater :=
                t.fenceScopeHighWater.insert existing.fenceScope newFencingToken
              quotaLeases := t.quotaLeases.insert leaseId
                { existing with
                  disposition, returnedAmount, quarantinedAmount, epoch := newEpoch
                  fencingToken := newFencingToken, committedAtIndex := logIndex } })

/-- The pool is seeded before its capacity is checked, as in the source. -/
def allocateCapacityLease (t : ControlPlaneTables) (logIndex : NonZeroU64)
    (capacityLeaseId : CapacityLeaseId) (poolId : Word 16) (poolTotalCapacity : U64)
    (targetCell : CellIdentity) (targetBootGeneration : Generation) (amount : U64)
    (capacityEpoch : NonZeroU64) (fencingToken : CellFencingToken) : CommandResult :=
  if t.capacityLeases.contains capacityLeaseId ∨ amount = 0 then
    t.reject .insufficientOrInvalidPoolBalance
  else
    let pool := t.capacityPools[poolId]?.getD ⟨poolTotalCapacity, 0⟩
    let t := { t with capacityPools := t.capacityPools.insert poolId pool }
    if pool.totalCapacity ≠ poolTotalCapacity then t.reject .insufficientOrInvalidPoolBalance
    else
      match Word.checkedAdd pool.committed amount with
      | none => t.reject .insufficientOrInvalidPoolBalance
      | some newCommitted =>
        if newCommitted > pool.totalCapacity then
          t.reject .insufficientOrInvalidPoolBalance
        else
          accept { t with
            capacityPools := t.capacityPools.insert poolId
              { pool with committed := newCommitted }
            capacityLeases := t.capacityLeases.insert capacityLeaseId
              { capacityLeaseId, poolId, targetCell, targetBootGeneration, amount,
                capacityEpoch, fencingToken, committedAtIndex := logIndex } }

/-- The device head automaton: only `free` may become `active`, and a head becomes `free`
again only with a reset and zeroization proof. -/
def deviceTransitionAllowed (prev next : ReplicatedDeviceHeadState) (hasProof : Bool) : Bool :=
  match prev, next with
  | .free, .active => true
  | .active, .quarantined => true
  | .active, .free => hasProof
  | .quarantined, .free => hasProof
  | _, _ => false

/-- A first transition is to `active`; a later one also increases the epoch and the token. -/
def deviceHeadAllowed (head : Option ReplicatedDeviceHeadEntry) (exclusivityEpoch : NonZeroU64)
    (fencingToken : CellFencingToken) (newState : ReplicatedDeviceHeadState)
    (hasResetZeroizationProof : Bool) : Bool :=
  match head with
  | some prev =>
    prev.exclusivityEpoch < exclusivityEpoch && prev.fencingToken < fencingToken &&
      deviceTransitionAllowed prev.state newState hasResetZeroizationProof
  | none => newState = .active

def transitionExclusiveDeviceHead (t : ControlPlaneTables) (logIndex : NonZeroU64)
    (deviceId : DeviceId) (deviceLeaseId : ExclusiveDeviceLeaseId)
    (exclusivityEpoch : NonZeroU64) (holderCell : Option CellIdentity)
    (fencingToken : CellFencingToken) (newState : ReplicatedDeviceHeadState)
    (hasResetZeroizationProof : Bool) : CommandResult :=
  if newState = .active ∧ holderCell.isNone then t.reject .deviceExclusivityViolation
  else if newState ≠ .active ∧ holderCell.isSome then t.reject .deviceExclusivityViolation
  else if deviceHeadAllowed t.deviceHeads[deviceId]? exclusivityEpoch fencingToken newState
      hasResetZeroizationProof then
    accept { t with
      deviceHeads := t.deviceHeads.insert deviceId
        { deviceId, deviceLeaseId, exclusivityEpoch, holderCell, fencingToken,
          state := newState, committedAtIndex := logIndex } }
  else t.reject .deviceExclusivityViolation

def applyRootLeasePool (t : ControlPlaneTables) (logIndex : NonZeroU64) :
    RootLeasePoolCommand → Except String CommandResult
  | .registerQuotaPool budgetRoot initialAvailable =>
    .ok (t.registerQuotaPool budgetRoot initialAvailable)
  | .allocateQuotaLease leaseId budgetRoot holderCell nodeBootGeneration faceValue epoch
      fencingToken fenceScope =>
      .ok (t.allocateQuotaLease logIndex leaseId budgetRoot holderCell nodeBootGeneration
        faceValue epoch fencingToken fenceScope)
  | .settleOrQuarantineQuotaLease leaseId disposition returnedAmount quarantinedAmount newEpoch
      newFencingToken =>
      t.settleOrQuarantineQuotaLease logIndex leaseId disposition returnedAmount
        quarantinedAmount newEpoch newFencingToken
  | .allocateCapacityLease capacityLeaseId poolId poolTotalCapacity targetCell
      targetBootGeneration amount capacityEpoch fencingToken =>
      .ok (t.allocateCapacityLease logIndex capacityLeaseId poolId poolTotalCapacity targetCell
        targetBootGeneration amount capacityEpoch fencingToken)
  | .transitionExclusiveDeviceHead deviceId deviceLeaseId exclusivityEpoch holderCell
      fencingToken newState hasResetZeroizationProof =>
      .ok (t.transitionExclusiveDeviceHead logIndex deviceId deviceLeaseId exclusivityEpoch
        holderCell fencingToken newState hasResetZeroizationProof)

def applyTaskAuthorityShard (t : ControlPlaneTables) (logIndex term : NonZeroU64) :
    TaskAuthorityShardCommand → CommandResult
  | .assignInitialAuthority assignmentId taskId taskGeneration authorityShard homeCell
      authorityTerm controlEpoch participantRegistryGeneration participantRegistryRoot =>
      if t.taskShards.contains (taskId, taskGeneration) then t.reject .taskAuthorityCasConflict
      else
        accept { t with
          taskShards := t.taskShards.insert (taskId, taskGeneration)
            { assignmentId, taskId, taskGeneration, authorityShard, homeCell, authorityTerm,
              controlEpoch, participantRegistryGeneration, participantRegistryRoot,
              consensusCommitIndex := logIndex, consensusTerm := term } }
  | .recordCompletedTakeover takeoverReceiptId taskId taskGeneration oldAssignmentId
      newAssignmentId frozenOldAuthorityTerm newAuthorityTerm newHomeCell newControlEpoch
      newParticipantRegistryGeneration newParticipantRegistryRoot exactFenceSetRoot
      outstandingEffectQuarantineRoot =>
      if t.takeoverReceipts.contains takeoverReceiptId ∨
          newAuthorityTerm ≤ frozenOldAuthorityTerm ∨ oldAssignmentId = newAssignmentId then
        t.reject .taskAuthorityCasConflict
      else
        match t.taskShards[(taskId, taskGeneration)]? with
        | none => t.reject .taskAuthorityCasConflict
        | some current =>
          if current.assignmentId ≠ oldAssignmentId ∨
              current.authorityTerm ≠ frozenOldAuthorityTerm ∨
              newControlEpoch ≤ current.controlEpoch ∨
              newParticipantRegistryGeneration ≤ current.participantRegistryGeneration then
            t.reject .taskAuthorityCasConflict
          else
            accept { t with
              taskShards := t.taskShards.insert (taskId, taskGeneration)
                { assignmentId := newAssignmentId, taskId, taskGeneration
                  authorityShard := current.authorityShard, homeCell := newHomeCell
                  authorityTerm := newAuthorityTerm, controlEpoch := newControlEpoch
                  participantRegistryGeneration := newParticipantRegistryGeneration
                  participantRegistryRoot := newParticipantRegistryRoot
                  consensusCommitIndex := logIndex, consensusTerm := term }
              takeoverReceipts := t.takeoverReceipts.insert takeoverReceiptId
                { takeoverReceiptId, taskId, taskGeneration, oldAssignmentId, newAssignmentId,
                  frozenOldAuthorityTerm, newAuthorityTerm, newHomeCell, newControlEpoch,
                  exactFenceSetRoot, outstandingEffectQuarantineRoot,
                  consensusCommitIndex := logIndex, consensusTerm := term } }

def applyControlPlaneAudit (t : ControlPlaneTables) (logIndex : NonZeroU64) :
    ControlPlaneAuditCommand → CommandResult
  | .anchorMigrationIntent intentId sourceCell targetCell epoch intentDigest =>
    if t.migrationAnchors.contains intentId ∨ sourceCell = targetCell then
      t.reject .auditAnchorConflict
    else
      accept { t with
        migrationAnchors := t.migrationAnchors.insert intentId
          { intentId, sourceCell, targetCell, epoch, intentDigest,
            consensusCommitIndex := logIndex } }
  | .anchorReconciliationCheckpoint cell nodeBootGeneration epoch checkpointSeq
      checkpointDigest =>
      let seq := checkpointSeq.val
      if t.checkpointAnchors.contains (cell, seq) then t.reject .auditAnchorConflict
      else if seq > 1 ∧ t.checkpointAnchors[(cell, seq - 1)]?.any (fun prev =>
          toLex (nodeBootGeneration, epoch) < toLex (prev.nodeBootGeneration, prev.epoch)) then
        t.reject .auditAnchorConflict
      else
        accept { t with
          checkpointAnchors := t.checkpointAnchors.insert (cell, seq)
            { cell, nodeBootGeneration, epoch, checkpointSeq, checkpointDigest,
              consensusCommitIndex := logIndex } }

def applyInner (t : ControlPlaneTables) (logIndex term : NonZeroU64) :
    ControlPlaneCommand → Except String CommandResult
  | .cellDirectoryMutation cmd => .ok (t.applyCellDirectory logIndex cmd)
  | .rootLeasePoolMutation cmd => t.applyRootLeasePool logIndex cmd
  | .taskAuthorityShardMutation cmd => .ok (t.applyTaskAuthorityShard logIndex term cmd)
  | .controlPlaneAuditAnchor cmd => .ok (t.applyControlPlaneAudit logIndex cmd)

section Frames

variable (t : ControlPlaneTables) (logIndex term : NonZeroU64)

lemma applyCellDirectory_frame (cmd : CellDirectoryCommand) : ∃ epoch digest cells,
    (t.applyCellDirectory logIndex cmd).1 =
      { t with trustPolicyEpoch := epoch, trustPolicyDigest := digest, cells := cells } := by
  cases cmd <;> simp only [applyCellDirectory] <;> repeat' split
  all_goals exact ⟨_, _, _, rfl⟩

lemma registerQuotaPool_frame (root : Word 16) (initial : U64) : ∃ pools,
    (t.registerQuotaPool root initial).1 = { t with quotaPools := pools } := by
  simp only [registerQuotaPool]
  split
  all_goals exact ⟨_, rfl⟩

lemma allocateQuotaLease_frame (id : QuotaLeaseId) (root : Word 16) (holder : CellIdentity)
    (gen : Generation) (face : U64) (epoch : CellEpoch) (token : CellFencingToken)
    (scope : Word 16) : ∃ pools leases fences,
    (t.allocateQuotaLease logIndex id root holder gen face epoch token scope).1 = { t with
        quotaPools := pools, quotaLeases := leases, fenceScopeHighWater := fences } := by
  simp only [allocateQuotaLease]
  repeat' split
  all_goals exact ⟨_, _, _, rfl⟩

lemma settleOrQuarantineQuotaLease_frame {id disposition returned quarantined epoch token r}
    (h : t.settleOrQuarantineQuotaLease logIndex id disposition returned quarantined epoch token =
      .ok r) : ∃ pools leases fences, r.1 = { t with
        quotaPools := pools, quotaLeases := leases, fenceScopeHighWater := fences } := by
  simp only [settleOrQuarantineQuotaLease] at h
  repeat' split at h
  all_goals cases h
  all_goals exact ⟨_, _, _, rfl⟩

lemma allocateCapacityLease_frame (id : CapacityLeaseId) (poolId : Word 16) (total : U64)
    (cell : CellIdentity) (gen : Generation) (amount : U64) (epoch : NonZeroU64)
    (token : CellFencingToken) : ∃ pools leases,
    (t.allocateCapacityLease logIndex id poolId total cell gen amount epoch token).1 =
      { t with capacityPools := pools, capacityLeases := leases } := by
  simp only [allocateCapacityLease]
  repeat' split
  all_goals exact ⟨_, _, rfl⟩

lemma transitionExclusiveDeviceHead_frame (id : DeviceId) (lease : ExclusiveDeviceLeaseId)
    (epoch : NonZeroU64) (holder : Option CellIdentity) (token : CellFencingToken)
    (state : ReplicatedDeviceHeadState) (proof : Bool) : ∃ heads,
    (t.transitionExclusiveDeviceHead logIndex id lease epoch holder token state proof).1 =
      { t with deviceHeads := heads } := by
  simp only [transitionExclusiveDeviceHead]
  repeat' split
  all_goals exact ⟨_, rfl⟩

lemma applyTaskAuthorityShard_frame (cmd : TaskAuthorityShardCommand) : ∃ shards receipts,
    (t.applyTaskAuthorityShard logIndex term cmd).1 =
      { t with taskShards := shards, takeoverReceipts := receipts } := by
  cases cmd <;> simp only [applyTaskAuthorityShard] <;> repeat' split
  all_goals exact ⟨_, _, rfl⟩

lemma applyControlPlaneAudit_frame (cmd : ControlPlaneAuditCommand) :
    ∃ migrations checkpoints, (t.applyControlPlaneAudit logIndex cmd).1 =
      { t with migrationAnchors := migrations, checkpointAnchors := checkpoints } := by
  cases cmd <;> simp only [applyControlPlaneAudit] <;> repeat' split
  all_goals exact ⟨_, _, rfl⟩

variable {t logIndex term} {r : CommandResult}

lemma applyInner_frame {cmd} (h : t.applyInner logIndex term cmd = .ok r) :
    (r.1.deviceHeads = t.deviceHeads ∨ ∃ id lease epoch holder token state proof,
      cmd = .rootLeasePoolMutation
        (.transitionExclusiveDeviceHead id lease epoch holder token state proof)) ∧
    (r.1.taskShards = t.taskShards ∨ ∃ sub, cmd = .taskAuthorityShardMutation sub) := by
  rcases cmd with cmd | cmd | cmd | cmd
  · cases h
    obtain ⟨_, _, _, hframe⟩ := t.applyCellDirectory_frame logIndex cmd
    exact ⟨.inl (by rw [hframe]), .inl (by rw [hframe])⟩
  · cases cmd with
    | registerQuotaPool =>
      cases h
      obtain ⟨_, hframe⟩ := t.registerQuotaPool_frame ..
      exact ⟨.inl (by rw [hframe]), .inl (by rw [hframe])⟩
    | allocateQuotaLease =>
      cases h
      obtain ⟨_, _, _, hframe⟩ := t.allocateQuotaLease_frame logIndex ..
      exact ⟨.inl (by rw [hframe]), .inl (by rw [hframe])⟩
    | settleOrQuarantineQuotaLease =>
      obtain ⟨_, _, _, hframe⟩ := t.settleOrQuarantineQuotaLease_frame logIndex h
      exact ⟨.inl (by rw [hframe]), .inl (by rw [hframe])⟩
    | allocateCapacityLease =>
      cases h
      obtain ⟨_, _, hframe⟩ := t.allocateCapacityLease_frame logIndex ..
      exact ⟨.inl (by rw [hframe]), .inl (by rw [hframe])⟩
    | transitionExclusiveDeviceHead =>
      cases h
      obtain ⟨_, hframe⟩ := t.transitionExclusiveDeviceHead_frame logIndex ..
      exact ⟨.inr ⟨_, _, _, _, _, _, _, rfl⟩, .inl (by rw [hframe])⟩
  · cases h
    obtain ⟨_, _, hframe⟩ := t.applyTaskAuthorityShard_frame logIndex term cmd
    exact ⟨.inl (by rw [hframe]), .inr ⟨_, rfl⟩⟩
  · cases h
    obtain ⟨_, _, hframe⟩ := t.applyControlPlaneAudit_frame logIndex cmd
    exact ⟨.inl (by rw [hframe]), .inl (by rw [hframe])⟩

end Frames

end ControlPlaneTables

structure CommittedEntry where
  (logIndex term : NonZeroU64)
  proposal : ControlPlaneProposal
deriving DecidableEq

/-- The verdict of an entry with the given rejection, if any. -/
def AppliedProposalOutcome.ofRejection (index : NonZeroU64) (replay : Bool) :
    Option ControlPlaneDomainRejection → AppliedProposalOutcome
  | none => .applied index replay
  | some reason => .domainRejected index reason

/-- Applies one committed entry; entries must arrive in strictly increasing index order. -/
def ControlPlaneStateMachine.applyCommittedEntry (sm : ControlPlaneStateMachine)
    (e : CommittedEntry) : Except String (ControlPlaneStateMachine × AppliedProposalOutcome) :=
  if e.logIndex.val ≤ sm.lastAppliedIndex then
    .error "committed entries must be applied in strictly increasing log_index order"
  else
    let sm := { sm with lastAppliedIndex := e.logIndex.val, lastAppliedTerm := e.term.val }
    let propDigest := e.proposal.proposalDigest
    match sm.dedupTable[e.proposal.idempotencyKey]? with
    | some existing =>
      if existing.proposalDigest = propDigest then
        .ok (sm, .ofRejection existing.committedIndex true existing.rejection)
      else .ok (sm, .domainRejected e.logIndex .idempotencyKeyPayloadConflict)
    | none => do
      let (tables, rejection) ←
        sm.toControlPlaneTables.applyInner e.logIndex e.term e.proposal.command
      let highWater := match rejection with
        | none => Word.saturatingAdd sm.authorityReceiptHighWater 1
        | some _ => sm.authorityReceiptHighWater
      let dedupTable := sm.dedupTable.insert e.proposal.idempotencyKey
        ⟨propDigest, e.logIndex, rejection⟩
      .ok ({ sm with
          toControlPlaneTables := tables
          authorityReceiptHighWater := highWater
          dedupTable := dedupTable },
        .ofRejection e.logIndex false rejection)

namespace ControlPlaneStateMachine

def advance (sm : ControlPlaneStateMachine) (e : CommittedEntry) : ControlPlaneStateMachine :=
  { sm with lastAppliedIndex := e.logIndex.val, lastAppliedTerm := e.term.val }

/-- The state after the first occurrence of a key, with the verdict of its command. -/
def record (sm : ControlPlaneStateMachine) (e : CommittedEntry) (r : CommandResult) :
    ControlPlaneStateMachine :=
  { sm.advance e with
    toControlPlaneTables := r.1
    authorityReceiptHighWater := match r.2 with
      | none => Word.saturatingAdd sm.authorityReceiptHighWater 1
      | some _ => sm.authorityReceiptHighWater
    dedupTable := sm.dedupTable.insert e.proposal.idempotencyKey
      ⟨e.proposal.proposalDigest, e.logIndex, r.2⟩ }

@[simp] lemma advance_dedupTable (sm : ControlPlaneStateMachine) (e : CommittedEntry) :
    (sm.advance e).dedupTable = sm.dedupTable := rfl

@[simp] lemma advance_tables (sm : ControlPlaneStateMachine) (e : CommittedEntry) :
    (sm.advance e).toControlPlaneTables = sm.toControlPlaneTables := rfl

@[simp] lemma record_tables (sm : ControlPlaneStateMachine) (e : CommittedEntry)
    (r : CommandResult) : (sm.record e r).toControlPlaneTables = r.1 := rfl

@[simp] lemma record_dedupTable (sm : ControlPlaneStateMachine) (e : CommittedEntry)
    (r : CommandResult) : (sm.record e r).dedupTable =
      sm.dedupTable.insert e.proposal.idempotencyKey
        ⟨e.proposal.proposalDigest, e.logIndex, r.2⟩ := rfl

def replay (rec : DedupRecord) (e : CommittedEntry) : AppliedProposalOutcome :=
  if rec.proposalDigest = e.proposal.proposalDigest then
    .ofRejection rec.committedIndex true rec.rejection
  else .domainRejected e.logIndex .idempotencyKeyPayloadConflict

lemma replay_of_digest_eq (rec : DedupRecord)
    (h : rec.proposalDigest = e.proposal.proposalDigest) :
    replay rec e = .ofRejection rec.committedIndex true rec.rejection := if_pos h

lemma replay_of_digest_ne (rec : DedupRecord)
    (h : rec.proposalDigest ≠ e.proposal.proposalDigest) :
    replay rec e = .domainRejected e.logIndex .idempotencyKeyPayloadConflict := if_neg h

inductive EntryStep (sm : ControlPlaneStateMachine) (e : CommittedEntry) :
    ControlPlaneStateMachine → AppliedProposalOutcome → Prop
  | replayed {rec : DedupRecord} (hrec : sm.dedupTable[e.proposal.idempotencyKey]? = some rec) :
      EntryStep sm e (sm.advance e) (replay rec e)
  | executed {r : CommandResult} (hnew : sm.dedupTable[e.proposal.idempotencyKey]? = none)
      (hinner : sm.toControlPlaneTables.applyInner e.logIndex e.term e.proposal.command = .ok r) :
      EntryStep sm e (sm.record e r) (.ofRejection e.logIndex false r.2)

variable {sm sm' : ControlPlaneStateMachine} {e : CommittedEntry} {o : AppliedProposalOutcome}

lemma applyCommittedEntry_of_recorded {rec} (hindex : sm.lastAppliedIndex < e.logIndex.val)
    (hrec : sm.dedupTable[e.proposal.idempotencyKey]? = some rec) :
    sm.applyCommittedEntry e = .ok (sm.advance e, replay rec e) := by
  simp only [applyCommittedEntry, not_le.mpr hindex, if_false, hrec, replay, advance]
  split <;> rfl

lemma applyCommittedEntry_of_new (hindex : sm.lastAppliedIndex < e.logIndex.val)
    (hnew : sm.dedupTable[e.proposal.idempotencyKey]? = none) : sm.applyCommittedEntry e =
      (sm.toControlPlaneTables.applyInner e.logIndex e.term e.proposal.command).map
        fun r => (sm.record e r, .ofRejection e.logIndex false r.2) := by
  simp only [applyCommittedEntry, not_le.mpr hindex, if_false, hnew]
  cases sm.toControlPlaneTables.applyInner e.logIndex e.term e.proposal.command <;> rfl

/-- Every successful application is one of the two cases, at a fresh index. -/
lemma entryStep_of_apply (h : sm.applyCommittedEntry e = .ok (sm', o)) :
    sm.lastAppliedIndex < e.logIndex.val ∧ EntryStep sm e sm' o := by
  have hindex : sm.lastAppliedIndex < e.logIndex.val := by
    by_contra hle
    simp [applyCommittedEntry, not_lt.mp hle] at h
  refine ⟨hindex, ?_⟩
  cases hkey : sm.dedupTable[e.proposal.idempotencyKey]? with
  | some =>
    rw [applyCommittedEntry_of_recorded hindex hkey] at h
    cases h
    exact .replayed hkey
  | none =>
    rw [applyCommittedEntry_of_new hindex hkey] at h
    cases hinner : sm.toControlPlaneTables.applyInner e.logIndex e.term e.proposal.command with
    | error => simp [hinner, Except.map] at h
    | ok =>
      rw [hinner] at h
      cases h
      exact .executed hkey hinner

end ControlPlaneStateMachine

abbrev ApplyEvent := Event ControlPlaneStateMachine CommittedEntry AppliedProposalOutcome

/-- `Applies h sm`: the entries of `h`, applied from genesis, lead to `sm`. -/
abbrev Applies (h : List ApplyEvent) (sm : ControlPlaneStateMachine) : Prop :=
  Run ControlPlaneStateMachine.applyCommittedEntry .new h sm

/-- An event whose command ran and was accepted, as opposed to rejected or replayed. -/
def ApplyEvent.Accepted (e : ApplyEvent) : Prop :=
  e.output = .applied e.input.logIndex false

instance (e : ApplyEvent) : Decidable e.Accepted :=
  inferInstanceAs (Decidable (e.output = .applied e.input.logIndex false))

@[simp] lemma accepted_executed_iff :
    ApplyEvent.Accepted ⟨sm, e, .ofRejection e.logIndex false r⟩ ↔ r = none := by
  cases r <;> simp [ApplyEvent.Accepted, AppliedProposalOutcome.ofRejection]

@[simp] lemma not_accepted_replay :
    ¬ ApplyEvent.Accepted ⟨sm, e, ControlPlaneStateMachine.replay rec e⟩ := by
  unfold ApplyEvent.Accepted ControlPlaneStateMachine.replay
  cases rec.rejection <;> split <;> simp [AppliedProposalOutcome.ofRejection]

structure CommittedLog where
  entries : List CommittedEntry
  increasing : (entries.map CommittedEntry.logIndex).Pairwise (· < ·)

def CommittedLog.apply (log : CommittedLog) :
    Except String (List ApplyEvent × ControlPlaneStateMachine) :=
  runAll ControlPlaneStateMachine.applyCommittedEntry .new log.entries

end Nlos.Consensus
