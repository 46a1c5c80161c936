import Nlos.Task.Permit

/-!
# Task groups

The group tree of a task: admission and removal of members under a committed membership root,
sealing, cancellation of a whole subtree, and the aggregate derived from the members.
-/

namespace Nlos.Task

open Lib

def GroupMemberRecord.bytes (member : GroupMemberRecord) : List UInt8 :=
  beBytes 8 member.memberType.code ++ member.memberId.bytes ++ beBytes 8 member.memberGeneration ++
    (match member.controlDomainId with
      | some controlDomain => 1 :: controlDomain.bytes
      | none => [0]) ++
    [if member.detached then 1 else 0]

def sortMembers (members : List GroupMemberRecord) : List GroupMemberRecord :=
  members.insertionSort fun a b =>
    a.memberType.code < b.memberType.code ∨
      (a.memberType.code = b.memberType.code ∧ a.memberId ≤ b.memberId)

def membershipRootOf (members : List GroupMemberRecord) : Digest :=
  sha256 "llmos/task-group-membership/v1" <|
    (sortMembers (members.filter fun m => m.membershipState = .active)).map GroupMemberRecord.bytes

def deriveGroupReceiptId (domain : String) (groupId : Id) (generationAfter : ℕ)
    (memberType : GroupMemberType) (memberId : Id) : Id :=
  sha256Prefix16 domain
    [groupId.bytes, beBytes 8 generationAfter, beBytes 8 memberType.code, memberId.bytes]

def deriveGroupAdmissionReceiptId : Id → ℕ → GroupMemberType → Id → Id :=
  deriveGroupReceiptId "llmos/task-group-admission/v1"

def deriveGroupRemovalReceiptId : Id → ℕ → GroupMemberType → Id → Id :=
  deriveGroupReceiptId "llmos/task-group-removal/v1"

structure GroupSpec where
  (groupId taskId : Id)
  taskGeneration : ℕ
  parentGroupId : Option Id
  groupPolicyDigest : Digest
  completionMode : CompletionMode
  failureMode : FailureMode
  (maxChildren maxDepth : ℕ)
  resourceGroupId : Option Id
  resourceAccountDigest : Option Digest
  cancellationScopeId : Id

inductive GroupRegistrationDecision where
  | created (groupId : Id)
  | existing (groupId : Id)
deriving DecidableEq

def GroupSpec.record (spec : GroupSpec) (depth : ℕ) : GroupRecord where
  groupId := spec.groupId
  taskId := spec.taskId
  taskGeneration := spec.taskGeneration
  parentGroupId := spec.parentGroupId
  depth := depth
  state := .opened
  membershipGeneration := 0
  membershipRoot := membershipRootOf []
  groupPolicyDigest := spec.groupPolicyDigest
  completionMode := spec.completionMode
  failureMode := spec.failureMode
  maxChildren := spec.maxChildren
  maxDepth := spec.maxDepth
  cancelEpoch := 0
  stateSeq := 1
  resourceGroupId := spec.resourceGroupId
  resourceAccountDigest := spec.resourceAccountDigest
  cancellationScopeId := spec.cancellationScopeId

def groupSpecMatches (record : GroupRecord) (spec : GroupSpec) : Prop :=
  record.taskId = spec.taskId ∧ record.taskGeneration = spec.taskGeneration ∧
    record.parentGroupId = spec.parentGroupId ∧
    record.groupPolicyDigest = spec.groupPolicyDigest ∧
    record.completionMode = spec.completionMode ∧ record.failureMode = spec.failureMode ∧
    record.maxChildren = spec.maxChildren ∧ record.maxDepth = spec.maxDepth ∧
    record.resourceGroupId = spec.resourceGroupId ∧
    record.resourceAccountDigest = spec.resourceAccountDigest ∧
    record.cancellationScopeId = spec.cancellationScopeId

instance (record : GroupRecord) (spec : GroupSpec) : Decidable (groupSpecMatches record spec) :=
  inferInstanceAs (Decidable (_ ∧ _))

/-- The position of the group an attempt is registered against. -/
structure GroupBinding where
  groupId : Id
  expectedMembershipGeneration : ℕ
  (expectedMembershipRoot expectedGroupPolicyDigest : Digest)

structure AttemptGroupRegistration where
  decision : AttemptRegistrationDecision
  binding : AttemptGroupBindingRecord
  admissionReceiptId : Id
deriving DecidableEq

inductive RemovalDecision where
  | removed (receipt : GroupAdmissionReceiptRecord)
  | replayed (receipt : GroupAdmissionReceiptRecord)
deriving DecidableEq

namespace TaskStore

variable (s : TaskStore)

def updateGroup (groupId : Id) (mutate : GroupRecord → GroupRecord) : TaskStore :=
  { s with groups := updateRows (fun g => g.groupId = groupId) mutate s.groups }

def listMembers (groupId : Id) : List GroupMemberRecord :=
  sortMembers (s.members.filter fun m => m.groupId = groupId)

def requireOpen (group : GroupRecord) : Tx Unit :=
  match group.state with
  | .opened => .ok ()
  | .sealed => .error .groupSealed
  | state => .error (.groupNotOpen state)

def groupHasPublicationInFlight (groupId : Id) : Prop :=
  ∃ plan ∈ s.artifactPlans, (plan.state = .publishing ∨ plan.state = .ready) ∧
    ∃ permit ∈ s.permits, permit.permitId = plan.permitId ∧
      ∃ binding ∈ permit.groupBinding, binding.groupId = groupId

instance (groupId : Id) : Decidable (s.groupHasPublicationInFlight groupId) :=
  inferInstanceAs (Decidable (∃ plan ∈ s.artifactPlans, _))

def checkAdmission (parent : GroupRecord) (memberType : GroupMemberType) (memberId : Id) :
    Tx Unit := do
  refuseIf (parent.maxChildren ≤
    s.members.countP fun m => m.groupId = parent.groupId ∧ m.membershipState = .active)
    .groupFanoutExceeded
  refuseIf (s.loadMember parent.groupId memberType memberId).isSome .membershipConflict

def admitMember (parent : GroupRecord) (memberType : GroupMemberType) (memberId : Id)
    (memberGeneration : ℕ) : Tx (TaskStore × ℕ × Digest × Id) := do
  refuseIf (s.groupHasPublicationInFlight parent.groupId) .groupPublicationInFlight
  let generationAfter ← orRefuse (checkedSucc parent.membershipGeneration) .epochExhausted
  let receiptId := deriveGroupAdmissionReceiptId parent.groupId generationAfter memberType memberId
  let members := s.members ++ [{
    groupId := parent.groupId, memberType, memberId, memberGeneration
    controlDomainId := none, detached := false, membershipState := .active
    membershipGeneration := generationAfter
    admissionReceiptId := receiptId, removalReceiptId := none }]
  let rootAfter := membershipRootOf (members.filter fun m => m.groupId = parent.groupId)
  let s := { s with members := members }.updateGroup parent.groupId fun g =>
    { g with membershipGeneration := generationAfter, membershipRoot := rootAfter }
  let groupReceipts ← orRefuse (insertRow (fun r => r.receiptId = receiptId)
    { receiptId, groupId := parent.groupId, kind := .admission, memberType, memberId
      memberGeneration, controlDomainId := none
      membershipGenerationAfter := generationAfter, membershipRootAfter := rootAfter }
    s.groupReceipts) .storage
  pure ({ s with groupReceipts := groupReceipts }, generationAfter, rootAfter, receiptId)

def checkAncestors (spec : GroupSpec) (depth : ℕ) : ℕ → GroupRecord → Tx Unit
  | 0, _ => .error .groupCycle
  | fuel + 1, ancestor => do
    refuseIf (ancestor.groupId = spec.groupId) .groupCycle
    refuseIf (ancestor.maxDepth < depth - ancestor.depth) .groupDepthExceeded
    match ancestor.parentGroupId with
    | some next => do
      let parent ← s.loadGroup next
      checkAncestors spec depth fuel parent
    | none => pure ()

def validateParent (spec : GroupSpec) (parentGroupId : Id) : Tx (GroupRecord × ℕ) := do
  refuseIf (parentGroupId = spec.groupId) .groupCycle
  let parent ← s.loadGroup parentGroupId
  refuseIf (parent.taskId ≠ spec.taskId) .groupNotFound
  requireOpen parent
  let depth ← orRefuse (checkedSucc parent.depth) .groupDepthExceeded
  s.checkAncestors spec depth (s.groups.length + 1) parent
  pure (parent, depth)

def registerGroup (spec : GroupSpec) : Tx (TaskStore × GroupRegistrationDecision) :=
  match s.groups.find? fun g => g.groupId = spec.groupId with
  | some existing => do
    refuseIf (¬ groupSpecMatches existing spec) .duplicateGroup
    pure (s, .existing spec.groupId)
  | none => do
    refuseIf (spec.completionMode = .quorum ∨ spec.completionMode = .reduce ∨
      spec.failureMode = .bestEffort) .unsupportedGroupMode
    let task ← s.loadTask spec.taskId
    refuseIf (task.taskGeneration ≠ spec.taskGeneration) .invalidGeneration
    refuseIf (task.state = .cancelled) .taskCancelled
    match spec.parentGroupId with
    | some parentGroupId => do
      let (parent, depth) ← s.validateParent spec parentGroupId
      s.checkAdmission parent .childGroup spec.groupId
      let s := { s with groups := s.groups ++ [spec.record depth] }
      let (s, _) ← s.admitMember parent .childGroup spec.groupId spec.taskGeneration
      pure (s, .created spec.groupId)
    | none => do
      refuseIf (∃ g ∈ s.groups, g.taskId = spec.taskId ∧ g.parentGroupId = none)
        .duplicateGroup
      pure ({ s with groups := s.groups ++ [spec.record 0] }, .created spec.groupId)

def loadAttemptBinding (attemptId : Id) : Option AttemptGroupBindingRecord :=
  s.attemptBindings.find? fun b => b.attemptId = attemptId

def replayGroupAttempt (existing : AttemptRecord) (spec : AttemptSpec) (binding : GroupBinding) :
    Tx AttemptGroupRegistration := do
  refuseIf (¬ attemptMatchesSpec existing spec) .idempotencyConflict
  let stored ← orRefuse (s.loadAttemptBinding existing.attemptId)
    (.corruptRecord "group attempt lacks durable binding")
  refuseIf (stored.groupId ≠ binding.groupId) .idempotencyConflict
  let member ← orRefuse (s.loadMember stored.groupId .taskAttempt stored.attemptId)
    (.corruptRecord "bound attempt lacks membership row")
  pure ⟨.existing existing, stored, member.admissionReceiptId⟩

def registerAttemptInGroup (spec : AttemptSpec) (binding : GroupBinding) :
    Tx (TaskStore × AttemptGroupRegistration) := do
  let task ← s.loadTask spec.taskId
  match s.loadAttemptByKey spec.taskId spec.idempotencyKey with
  | some existing => do
    let registration ← s.replayGroupAttempt existing spec binding
    pure (s, registration)
  | none => do
    refuseIf (s.loadAttemptGlobal spec.attemptId).isSome .duplicateAttempt
    refuseIf (task.state = .cancelled) .taskCancelled
    let group ← s.loadGroup binding.groupId
    refuseIf (group.taskId ≠ spec.taskId) .groupNotFound
    requireOpen group
    refuseIf (binding.expectedMembershipGeneration ≠ group.membershipGeneration)
      (.staleMembershipGeneration binding.expectedMembershipGeneration group.membershipGeneration)
    refuseIf (binding.expectedMembershipRoot ≠ group.membershipRoot ∨
      binding.expectedGroupPolicyDigest ≠ group.groupPolicyDigest) .membershipConflict
    s.checkAdmission group .taskAttempt spec.attemptId
    let s ← s.insertSnapshotIfAbsent spec.taskId spec.snapshot
    let record := spec.record none
    let s := { s with attempts := s.attempts ++ [record] }
    let (s, generationAfter, rootAfter, receiptId) ←
      s.admitMember group .taskAttempt spec.attemptId spec.attemptGeneration
    let bindingRecord : AttemptGroupBindingRecord :=
      ⟨spec.attemptId, spec.taskId, binding.groupId, generationAfter, rootAfter,
        group.groupPolicyDigest⟩
    pure ({ s with attemptBindings := s.attemptBindings ++ [bindingRecord] },
      ⟨.created record, bindingRecord, receiptId⟩)

def attemptHasQuarantinedPermit (attemptId : Id) : Prop :=
  ∃ p ∈ s.permits, p.attemptId = attemptId ∧ p.state = .quarantined

instance (attemptId : Id) : Decidable (s.attemptHasQuarantinedPermit attemptId) :=
  inferInstanceAs (Decidable (∃ p ∈ s.permits, _))

/-- Whether an active descendant holds quarantine evidence; the walk is bounded by the height of
the tree. -/
def subtreeQuarantined : ℕ → Id → Bool
  | 0, _ => false
  | fuel + 1, groupId =>
    (s.listMembers groupId).any fun member =>
      member.membershipState = .active && match member.memberType with
        | .taskAttempt => decide (s.attemptHasQuarantinedPermit member.memberId)
        | .childGroup => subtreeQuarantined fuel member.memberId

def treeFuel : ℕ := s.groups.length + 1

def removeMember (groupId : Id) (memberType : GroupMemberType) (memberId : Id)
    (memberGeneration : ℕ) : Tx (TaskStore × RemovalDecision) := do
  let group ← s.loadGroup groupId
  requireOpen group
  refuseIf (s.groupHasPublicationInFlight groupId) .groupPublicationInFlight
  let member ← orRefuse (s.loadMember groupId memberType memberId) .groupMemberNotFound
  refuseIf (member.memberGeneration ≠ memberGeneration) .membershipConflict
  if member.membershipState = .removed then
    let receiptId ← orRefuse member.removalReceiptId
      (.corruptRecord "removed member lacks removal receipt")
    let receipt ← orRefuse (s.groupReceipts.find? fun r => r.receiptId = receiptId) .receiptNotFound
    pure (s, .replayed receipt)
  else
    let quarantined : Bool := match member.memberType with
      | .taskAttempt => s.attemptHasQuarantinedPermit member.memberId
      | .childGroup => s.subtreeQuarantined s.treeFuel member.memberId
    refuseIf quarantined .groupQuarantinedChild
    let generationAfter ← orRefuse (checkedSucc group.membershipGeneration) .epochExhausted
    let receiptId := deriveGroupRemovalReceiptId groupId generationAfter memberType memberId
    let members := updateRows
      (fun m => m.groupId = groupId ∧ m.memberType = memberType ∧ m.memberId = memberId)
      (fun m => { m with membershipState := .removed, removalReceiptId := some receiptId })
      s.members
    let rootAfter := membershipRootOf (members.filter fun m => m.groupId = groupId)
    let s := { s with members := members }.updateGroup groupId fun g =>
      { g with membershipGeneration := generationAfter, membershipRoot := rootAfter }
    let receipt : GroupAdmissionReceiptRecord :=
      { receiptId, groupId, kind := .removal, memberType, memberId
        memberGeneration := member.memberGeneration
        controlDomainId := member.controlDomainId
        membershipGenerationAfter := generationAfter, membershipRootAfter := rootAfter }
    let groupReceipts ← orRefuse
      (insertRow (fun r => r.receiptId = receiptId) receipt s.groupReceipts) .storage
    pure ({ s with groupReceipts := groupReceipts }, .removed receipt)

def sealGroup (groupId : Id) : Tx (TaskStore × GroupRecord) := do
  let group ← s.loadGroup groupId
  match group.state with
  | .opened =>
    let sealing (g : GroupRecord) : GroupRecord :=
      { g with state := .sealed, stateSeq := g.stateSeq + 1 }
    pure (s.updateGroup groupId sealing, sealing group)
  | .sealed => pure (s, group)
  | state => .error (.invalidGroupState state)

structure Propagation where
  store : TaskStore
  closedAttempts : List (Id × Id)
  cancelledGroups : List Id

/-- Closes the open attempts below a group and cancels its child groups, depth first. -/
def propagateCancel (task : TaskRecord) : ℕ → GroupRecord → ℕ → Propagation → Tx Propagation
  | 0, _, _, _ => .error .storage
  | fuel + 1, group, cancelEpoch, progress =>
    (progress.store.listMembers group.groupId).foldlM (fun progress member =>
      if member.membershipState ≠ .active ∨ member.detached then
        pure progress
      else
        match member.memberType with
        | .taskAttempt => do
          let attempt ← progress.store.loadAttempt group.taskId member.memberId
          if attempt.state.isOpenCandidate then
            let (store, receiptId) ← progress.store.closeAttempt task cancelEpoch attempt
            pure { progress with
              store := store
              closedAttempts := progress.closedAttempts ++ [(attempt.attemptId, receiptId)] }
          else
            pure progress
        | .childGroup => do
          let child ← progress.store.loadGroup member.memberId
          if child.state.isTerminal then
            pure progress
          else
            let childEpoch ← orRefuse (checkedSucc child.cancelEpoch) .epochExhausted
            let progress ← propagateCancel task fuel child childEpoch progress
            let quarantined := progress.store.subtreeQuarantined progress.store.treeFuel
              child.groupId
            let store := progress.store.updateGroup child.groupId fun g =>
              { g with
                cancelEpoch := childEpoch
                state := if quarantined then .endedPartial else .cancelled
                stateSeq := g.stateSeq + 1 }
            pure { progress with
              store := store
              cancelledGroups := progress.cancelledGroups ++ [child.groupId] }) progress

end TaskStore

inductive GroupCancelDecision where
  | applied (cancelEpoch : ℕ) (closedAttempts : List (Id × Id)) (cancelledGroups : List Id)
  | replayed (cancelEpoch : ℕ)
  | alreadyCancelled (cancelEpoch : ℕ)
deriving DecidableEq

namespace TaskStore

variable (s : TaskStore)

def cancelGroup (groupId idempotencyKey : Id) : Tx (TaskStore × GroupCancelDecision) := do
  let group ← s.loadGroup groupId
  match s.groupCancels.find? fun row => row.1 = groupId with
  | some (_, key, cancelEpochAfter) =>
    pure (s, if key = idempotencyKey then .replayed cancelEpochAfter
      else .alreadyCancelled group.cancelEpoch)
  | none => do
    refuseIf group.state.isTerminal (.invalidGroupState group.state)
    let task ← s.loadTask group.taskId
    let cancelEpoch ← orRefuse (checkedSucc group.cancelEpoch) .epochExhausted
    let progress ← propagateCancel task s.treeFuel group cancelEpoch ⟨s, [], []⟩
    let quarantined := progress.store.subtreeQuarantined progress.store.treeFuel groupId
    let store := progress.store.updateGroup groupId fun g =>
      { g with
        cancelEpoch := cancelEpoch
        state := if quarantined then .endedPartial else .cancelled
        stateSeq := g.stateSeq + 1 }
    pure ({ store with groupCancels := store.groupCancels ++
      [(groupId, idempotencyKey, cancelEpoch)] },
      .applied cancelEpoch progress.closedAttempts progress.cancelledGroups)

end TaskStore

inductive ChildClass where
  | success
  | failure
  | cancelled
  | partialled
  | nonTerminal
deriving DecidableEq

def classifyGroup : GroupState → ChildClass
  | .completed => .success
  | .failed => .failure
  | .cancelled => .cancelled
  | .endedPartial => .partialled
  | _ => .nonTerminal

def classifyAttempt : AttemptState → ChildClass
  | .committed => .success
  | .failed => .failure
  | .cancelled | .conflicted | .superseded => .cancelled
  | _ => .nonTerminal

/-- The state a refresh derives, and whether the remaining descendants are cancelled first. -/
structure AggregateDerivation where
  target : Option GroupState
  propagateCancel : Bool
deriving DecidableEq

/-- The derived state before quarantine caps it; `none` while nothing is decided. -/
def aggregateBase (failureMode : FailureMode) (classes : List ChildClass) :
    CompletionMode → Option GroupState
  | .all =>
    if .nonTerminal ∈ classes then none
    else if ∀ c ∈ classes, c = .success then some .completed
    else if .failure ∈ classes then
      match failureMode with
      | .failFast | .collectAll => some .failed
      | .isolate => if .success ∈ classes then some .endedPartial else some .failed
      | .bestEffort => none
    else some .endedPartial
  | .any =>
    if .success ∈ classes then some .completed
    else if .nonTerminal ∈ classes then none
    else if .failure ∈ classes then some .failed
    else if .partialled ∈ classes then some .endedPartial
    else some .cancelled
  | .quorum | .reduce => none

def deriveAggregate (completionMode : CompletionMode) (failureMode : FailureMode)
    (classes : List ChildClass) (quarantined : Bool) : AggregateDerivation :=
  if completionMode = .all ∧ failureMode = .failFast ∧ .failure ∈ classes ∧
      .nonTerminal ∈ classes then
    ⟨some .failed, true⟩
  else
    match aggregateBase failureMode classes completionMode, quarantined with
    | some .completed, true => ⟨some .endedPartial, false⟩
    | target, _ => ⟨target, false⟩

namespace TaskStore

variable (s : TaskStore)

def classifyMember (taskId : Id) (member : GroupMemberRecord) : Tx ChildClass :=
  match member.memberType with
  | .taskAttempt => do
    let attempt ← s.loadAttempt taskId member.memberId
    pure (classifyAttempt attempt.state)
  | .childGroup => do
    let child ← s.loadGroup member.memberId
    pure (classifyGroup child.state)

def refreshGroupAggregate (groupId : Id) : Tx (TaskStore × GroupRecord) := do
  let group ← s.loadGroup groupId
  if group.state.isTerminal then
    pure (s, group)
  else
    let active := (s.listMembers groupId).filter fun m => m.membershipState = .active
    let classes ← active.mapM (s.classifyMember group.taskId)
    let derivation := deriveAggregate group.completionMode group.failureMode classes
      (s.subtreeQuarantined s.treeFuel groupId)
    match derivation.target with
    | none => pure (s, group)
    | some target =>
      if derivation.propagateCancel then
        let task ← s.loadTask group.taskId
        let cancelEpoch ← orRefuse (checkedSucc group.cancelEpoch) .epochExhausted
        let progress ← propagateCancel task s.treeFuel group cancelEpoch ⟨s, [], []⟩
        let store := progress.store.updateGroup groupId fun g =>
          { g with cancelEpoch := cancelEpoch, state := target, stateSeq := g.stateSeq + 1 }
        let record ← store.loadGroup groupId
        pure (store, record)
      else
        let store := s.updateGroup groupId fun g =>
          { g with state := target, stateSeq := g.stateSeq + 1 }
        let record ← store.loadGroup groupId
        pure (store, record)

end TaskStore

end Nlos.Task
