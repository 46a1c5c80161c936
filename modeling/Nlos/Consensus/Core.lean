import Nlos.Consensus.Message
import Nlos.Consensus.Roster

/-!
# The consensus core: state, construction and log queries

The state of one replica, how it is built at genesis or from durable state, and the queries on its
log.
-/

namespace Nlos.Consensus

open Lib

structure PendingQuorumRound where
  (term commitIndexAtIssue : ℕ)
  ackedDomains : Finset ControlDomainId
  waitingReadIds : List ℕ
deriving DecidableEq

structure InboundSnapshotStaging where
  term : ℕ
  leaderId : CellIdentity
  (lastIncludedIndex lastIncludedTerm : ℕ)
  (stateRootDigest snapshotSha256 : Digest)
  totalBytes : ℕ
  buffer : List UInt8
deriving DecidableEq

structure RehydratedCoreState where
  currentTerm : ℕ
  votedFor : Option CellIdentity
  commitIndex : ℕ
  snapshot : Option (SnapshotMetadata × List UInt8)
  logTail : List RaftLogEntry
deriving DecidableEq

def RehydratedCoreState.default : RehydratedCoreState := ⟨0, none, 0, none, []⟩

/-- The last index the durable snapshot covers, zero when there is none. -/
def RehydratedCoreState.snapshotIndex (state : RehydratedCoreState) : ℕ :=
  ((state.snapshot.map Prod.fst).map SnapshotMetadata.includedIndex).getD 0

structure ConsensusCore where
  localId : CellIdentity
  localDomain : ControlDomainId
  roster : ValidatedVoterRoster
  timing : ConsensusTimingConfig
  role : ConsensusRole
  currentTerm : ℕ
  (votedFor knownLeader : Option CellIdentity)
  formerLeaderTerm : Option ℕ
  snapshotMeta : Option SnapshotMetadata
  snapshotBytes : Option (List UInt8)
  logTail : List RaftLogEntry
  (commitIndex ticksSinceLeaderContact ticksSinceHeartbeatSent preVoteProspectiveTerm : ℕ)
  (preVotesGrantedDomains votesGrantedDomains : Finset ControlDomainId)
  (nextIndex matchIndex snapshotSendOffset : Table CellIdentity ℕ)
  inboundSnapshot : Option InboundSnapshotStaging
  nextQuorumRoundId : ℕ
  quorumRounds : Table ℕ PendingQuorumRound
  leaderLease : TermBoundLeaderLease

namespace ConsensusCore

def genesis (localId : CellIdentity) (localDomain : ControlDomainId)
    (roster : ValidatedVoterRoster) (timing : ConsensusTimingConfig) : ConsensusCore where
  localId
  localDomain
  roster
  timing
  role := .follower
  currentTerm := 0
  votedFor := none
  knownLeader := none
  formerLeaderTerm := none
  snapshotMeta := none
  snapshotBytes := none
  logTail := []
  commitIndex := 0
  ticksSinceLeaderContact := 0
  ticksSinceHeartbeatSent := 0
  preVoteProspectiveTerm := 0
  preVotesGrantedDomains := ∅
  votesGrantedDomains := ∅
  nextIndex := ∅
  matchIndex := ∅
  snapshotSendOffset := ∅
  inboundSnapshot := none
  nextQuorumRoundId := 1
  quorumRounds := ∅
  leaderLease := ⟨0, 0, 0⟩

/-- A single voter leads term one from the start; otherwise everyone starts as a follower. -/
def new (localId : CellIdentity) (roster : ValidatedVoterRoster)
    (timing : ConsensusTimingConfig) : Except ConsensusConfigError ConsensusCore :=
  match timing.validate with
  | .error e => .error e
  | .ok timing =>
    match roster.domainOf localId with
    | none => .error (.localCellNotInRoster localId)
    | some localDomain =>
      let c := genesis localId localDomain roster timing
      if roster.len = 1 then
        .ok { c with
          role := .leader
          currentTerm := 1
          votedFor := some localId
          knownLeader := some localId
          votesGrantedDomains := {localDomain}
          nextIndex := (∅ : Table CellIdentity ℕ).insert localId 1
          matchIndex := (∅ : Table CellIdentity ℕ).insert localId 0
          leaderLease := ⟨1, timing.leaderLeaseTicks, 0⟩ }
      else .ok c

lemma new_eq_ok {localId roster timing c}
    (h : new localId roster timing = .ok c) :
    ∃ domain, roster.domainOf localId = some domain ∧
      ((roster.len ≠ 1 ∧ c = genesis localId domain roster timing) ∨
        (roster.len = 1 ∧ c = { genesis localId domain roster timing with
          role := .leader
          currentTerm := 1
          votedFor := some localId
          knownLeader := some localId
          votesGrantedDomains := {domain}
          nextIndex := (∅ : Table CellIdentity ℕ).insert localId 1
          matchIndex := (∅ : Table CellIdentity ℕ).insert localId 0
          leaderLease := ⟨1, timing.leaderLeaseTicks, 0⟩ })) := by
  unfold new at h
  split at h
  · simp at h
  · next timing' hvalid =>
    obtain rfl := ConsensusTimingConfig.validate_eq_ok hvalid
    split at h
    · simp at h
    · next domain hdomain =>
      dsimp only at h
      split at h
      · next hlen => exact ⟨domain, hdomain, .inr ⟨hlen, (Except.ok.inj h).symm⟩⟩
      · next hlen => exact ⟨domain, hdomain, .inl ⟨hlen, (Except.ok.inj h).symm⟩⟩

variable (c : ConsensusCore)

def snapshotIndex : ℕ := (c.snapshotMeta.map SnapshotMetadata.includedIndex).getD 0

def firstUncompactedIndex : ℕ :=
  match c.snapshotMeta with
  | none => 1
  | some m => m.includedIndex + 1

def lastLogIndex : ℕ :=
  match c.logTail.getLast? with
  | some e => e.index
  | none => c.snapshotIndex

def lastLogTerm : ℕ :=
  match c.logTail.getLast? with
  | some e => e.term
  | none => (c.snapshotMeta.map SnapshotMetadata.includedTerm).getD 0

def tailTermAt (index : ℕ) : Option ℕ :=
  if index < c.firstUncompactedIndex then none
  else (c.logTail[index - c.firstUncompactedIndex]?).map RaftLogEntry.term

def termAt (index : ℕ) : Option ℕ :=
  if index = 0 then some 0
  else
    match c.snapshotMeta with
    | none => c.tailTermAt index
    | some m =>
      if index = m.includedIndex then some m.includedTerm
      else if index < m.includedIndex then none
      else c.tailTermAt index

def collectRange (startInclusive endInclusive : ℕ) : List RaftLogEntry :=
  if endInclusive < startInclusive then []
  else c.logTail.filter fun e => startInclusive ≤ e.index ∧ e.index ≤ endInclusive

def loadLog (state : RehydratedCoreState) : ConsensusCore :=
  { c with
    snapshotMeta := state.snapshot.map Prod.fst
    snapshotBytes := state.snapshot.map Prod.snd
    logTail := state.logTail
    commitIndex := max state.commitIndex state.snapshotIndex }

/-- A replica restarted from durable state; a single voter leads and commits its whole log. -/
def rehydrate (localId : CellIdentity) (roster : ValidatedVoterRoster)
    (timing : ConsensusTimingConfig) (state : RehydratedCoreState) :
    Except ConsensusConfigError ConsensusCore :=
  match new localId roster timing with
  | .error e => .error e
  | .ok core =>
    let core := core.loadLog state
    if core.roster.len = 1 then
      let last := core.lastLogIndex
      .ok { core with
        currentTerm := max state.currentTerm 1
        votedFor := some localId
        role := .leader
        knownLeader := some localId
        commitIndex := last
        matchIndex := core.matchIndex.insert localId last
        nextIndex := core.nextIndex.insert localId (last + 1) }
    else
      .ok { core with
        currentTerm := state.currentTerm
        votedFor := state.votedFor
        role := .follower
        knownLeader := none }

/-- Records a snapshot taken locally. The tail is always compacted up to the smaller of the two
bounds, but the boundary moves only when that bound is the snapshot's own. -/
def recordLocalSnapshot (snapshot : SnapshotMetadata) (snapshotBytes : List UInt8)
    (compactUpTo : ℕ) : ConsensusCore × Bool :=
  if snapshot.includedIndex = 0 ∨ c.commitIndex < snapshot.includedIndex then (c, false)
  else if c.snapshotMeta.any fun existing => snapshot.includedIndex < existing.includedIndex then
    (c, false)
  else
    let targetCompact := min compactUpTo snapshot.includedIndex
    let c := { c with logTail := c.logTail.filter fun e => targetCompact < e.index }
    if targetCompact = snapshot.includedIndex then
      ({ c with
          snapshotMeta := some snapshot
          snapshotBytes := some snapshotBytes
          snapshotSendOffset := ∅ }, true)
    else (c, true)

end ConsensusCore

end Nlos.Consensus
