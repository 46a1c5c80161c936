import Nlos.Task.Access

/-!
# The authority lease and the takeover fence

The store has one authority lease: it is renewed by its holder and taken over under the next
term once it has expired. A takeover freezes the registry of a task and later reopens it.
-/

namespace Nlos.Task

open Lib

structure AuthorityLeaseRequest where
  holderId : Id
  (requestedAtMs ttlMs : ℤ)
  idempotencyKey : Id

/-- The clock evidence a takeover is judged by. -/
inductive WallAnchor where
  | unanchored
  | observed (wallMs : ℕ)
deriving DecidableEq

/-- The instant an incumbent is judged dead at, if it can be. -/
def WallAnchor.effectiveNowMs (requestedAtMs : ℤ) : WallAnchor → Option ℤ
  | unanchored => some requestedAtMs
  | observed 0 => none
  | observed (wallMs + 1) => some (min requestedAtMs (min (wallMs + 1 : ℤ) (2 ^ 63 - 1)))

/-- An incumbent that cannot be judged is live. -/
def WallAnchor.incumbentLive (wallAnchor : WallAnchor) (requestedAtMs : ℤ)
    (current : AuthorityLeaseRecord) : Bool :=
  match wallAnchor.effectiveNowMs requestedAtMs with
  | some effectiveNowMs => effectiveNowMs < current.expiresAtMs
  | none => true

inductive AuthorityLeaseDecision where
  | acquired (lease : AuthorityLeaseRecord)
  | renewed (lease : AuthorityLeaseRecord)
  | takenOver (lease : AuthorityLeaseRecord)
  | replayed (lease : AuthorityLeaseRecord)
deriving DecidableEq

def maxAuthorityLeaseTtlMs : ℤ := 86400000

def maxParticipants : ℕ := 256

def AuthorityLeaseRequest.expiresAtMs (request : AuthorityLeaseRequest) : Tx ℤ := do
  refuseIf (request.requestedAtMs < 0)
    (.invalidAuthorityLease "request timestamp must be non-negative")
  refuseIf (request.ttlMs ≤ 0 ∨ maxAuthorityLeaseTtlMs < request.ttlMs)
    (.invalidAuthorityLease "lease TTL is outside the bounded positive range")
  refuseIf (2 ^ 63 ≤ request.requestedAtMs + request.ttlMs) .epochExhausted
  pure (request.requestedAtMs + request.ttlMs)

def deriveFencingToken (authorityId holderId : Id) (term leaseEpoch : ℕ) (expiresAtMs : ℤ)
    (idempotencyKey : Id) : Digest :=
  sha256 "llmos/task-authority-lease/v1"
    [authorityId.bytes, holderId.bytes, beBytes 8 term, beBytes 8 leaseEpoch,
      beBytes 8 expiresAtMs.toNat, idempotencyKey.bytes]

namespace TaskStore

variable (s : TaskStore)

def leaseRecord (request : AuthorityLeaseRequest) (term leaseEpoch : ℕ) (expiresAtMs : ℤ) :
    AuthorityLeaseRecord where
  authorityId := s.authorityId
  holderId := request.holderId
  term := term
  leaseEpoch := leaseEpoch
  fencingToken := deriveFencingToken s.authorityId request.holderId term leaseEpoch expiresAtMs
    request.idempotencyKey
  requestedAtMs := request.requestedAtMs
  expiresAtMs := expiresAtMs
  ttlMs := request.ttlMs
  idempotencyKey := request.idempotencyKey

def storeLease (record : AuthorityLeaseRecord) : TaskStore :=
  { s with lease := some record, leaseHistory := s.leaseHistory ++ [record] }

def acquireAuthorityLease (request : AuthorityLeaseRequest) (wallAnchor : WallAnchor) :
    Tx (TaskStore × AuthorityLeaseDecision) := do
  let expiresAtMs ← request.expiresAtMs
  match s.leaseHistory.find? fun l => l.idempotencyKey = request.idempotencyKey with
  | some history => do
    refuseIf (¬ (history.holderId = request.holderId ∧
      history.requestedAtMs = request.requestedAtMs ∧ history.ttlMs = request.ttlMs ∧
      history.expiresAtMs = expiresAtMs))
      (.invalidAuthorityLease "idempotency key conflicts with durable lease bytes")
    pure (s, .replayed history)
  | none =>
    match s.lease with
    | none =>
      let record := s.leaseRecord request 1 1 expiresAtMs
      pure (s.storeLease record, .acquired record)
    | some current => do
      if wallAnchor.incumbentLive request.requestedAtMs current then
        refuseIf (current.holderId ≠ request.holderId) .authorityLeaseHeld
        let leaseEpoch ← orRefuse (checkedSucc current.leaseEpoch) .epochExhausted
        let record := s.leaseRecord request current.term leaseEpoch expiresAtMs
        pure (s.storeLease record, .renewed record)
      else
        let term ← orRefuse (checkedSucc current.term) .epochExhausted
        let leaseEpoch ← orRefuse (checkedSucc current.leaseEpoch) .epochExhausted
        let record := s.leaseRecord request term leaseEpoch expiresAtMs
        pure (s.storeLease record, .takenOver record)

/-- `assignment` is the answer of the assignment table, `receipts` that of the fence receipt and
pending takeover tables. -/
def prepareAuthorityTakeoverFence (taskId : Id) (expected : ParticipantRegistryBinding)
    (lease : AuthorityLeaseRecord) (requestedAtMs : ℤ) (assignment receipts : Tx Unit) :
    Tx (TaskStore × ParticipantRegistryRecord) := do
  let task ← s.loadTask taskId
  s.validateAuthorityLeaseBinding lease.binding requestedAtMs
  assignment
  let before ← s.inspectRegistry task
  let (s, registry) ← s.freezeForTakeover task expected
  if before.state = .frozenForTakeover then
    receipts
    pure (s, registry)
  else
    let controlEpoch ← orRefuse (checkedSucc task.controlEpoch) .epochExhausted
    receipts
    pure (s.updateTask taskId fun t => { t with controlEpoch := controlEpoch }, registry)

/-- Reopens the registry after a completed takeover. `takeover` is the answer of the takeover
receipt, `replay` and `assignment` those of the assignment table before and after the reopen. -/
def reopenSuccessorRegistry (taskId : Id) (expected : ParticipantRegistryBinding)
    (lease : AuthorityLeaseRecord) (reopenedAtMs : ℤ) (takeover replay assignment : Tx Unit) :
    Tx (TaskStore × Unit) := do
  refuseIf (reopenedAtMs < 0) (.corruptRecord "successor registry timestamp")
  takeover
  let task ← s.loadTask taskId
  let registry ← s.inspectRegistry task
  -- A committed reopen is replayed without looking at the lease again.
  if expected.generation < registry.generation then
    refuseIf (registry.priorRoot ≠ expected.root ∨
      ¬ (registry.state = .opened ∨ registry.state = .frozenForPermit))
      (.corruptRecord "successor registry replay binding")
    replay
    pure (s, ())
  else
    refuseIf (registry.binding ≠ expected ∨ registry.state ≠ .frozenForTakeover)
      .participantRegistryBindingMismatch
    assignment
    s.validateAuthorityLeaseBinding lease.binding reopenedAtMs
    let controlEpoch ← orRefuse (checkedSucc task.controlEpoch) .epochExhausted
    let s ← s.reopenAfterTakeover task expected
    pure (s.updateTask taskId fun t => { t with controlEpoch := controlEpoch }, ())

def registerVerifiedParticipant (taskId : Id) (expected : ParticipantRegistryBinding)
    (participant : ParticipantRecord) (owner assignment : Tx Unit) :
    Tx (TaskStore × ParticipantRegistryRecord) := do
  owner
  let task ← s.loadTask taskId
  assignment
  refuseIf (participant.participantType = .taskStore) .participantEndpointConflict
  let (s, registry) ← s.initializeRegistry task
  if participant ∈ registry.participants then
    pure (s, registry)
  else
    let replacement := registry.participants.findIdx? fun p =>
      p.participantId = participant.participantId
    refuseIf (∃ p ∈ replacement.bind (registry.participants[·]?),
      p.participantType ≠ participant.participantType ∨
        participant.participantGeneration ≤ p.participantGeneration) .participantEndpointConflict
    refuseIf (∃ p ∈ registry.participants, p.admissionReceiptId = participant.admissionReceiptId)
      .participantEndpointConflict
    refuseIf (registry.binding ≠ expected) .participantRegistryCasMismatch
    refuseIf (registry.state ≠ .opened) (.participantRegistryFrozen registry.state)
    refuseIf (replacement = none ∧ maxParticipants ≤ registry.participants.length)
      .participantRegistryFull
    let next ← orRefuse (checkedSucc registry.generation) .epochExhausted
    let participants :=
      match replacement with
      | some index => registry.participants.set index participant
      | none => registry.participants ++ [participant]
    let registered := .ofParticipants registry.taskId registry.taskGeneration next registry.root
      (participants.insertionSort fun a b =>
        a.participantType.code < b.participantType.code ∨
          (a.participantType.code = b.participantType.code ∧ a.participantId ≤ b.participantId))
    pure (s.setRegistry registered, registered)

end TaskStore

end Nlos.Task
