import Nlos.Consensus.Core

/-!
# The consensus core: elections and client requests

Each handler takes the state of a replica and returns the next state with its effects in the order
the source pushes them.
-/

namespace Nlos.Consensus

open Lib

namespace ConsensusCore

variable (c : ConsensusCore)

def peers : List CellIdentity :=
  (c.roster.members.map VoterReplica.cellIdentity).filter fun id => id ≠ c.localId

/-- The next message for a peer: a snapshot chunk when the peer needs compacted entries, and
otherwise the entries from its next index on. -/
def buildReplicationForPeer (peer : CellIdentity) (quorumRoundId : ℕ) : ConsensusEffect :=
  let nextIdx := max (c.nextIndex[peer]?.getD (c.lastLogIndex + 1)) 1
  let entriesMessage : RaftMessage :=
    .appendEntries c.currentTerm c.localId (nextIdx - 1) ((c.termAt (nextIdx - 1)).getD 0)
      (c.collectRange nextIdx c.lastLogIndex) c.commitIndex quorumRoundId
  match c.snapshotMeta, c.snapshotBytes with
  | some m, some snapBytes =>
    if nextIdx ≤ m.includedIndex then
      let offset := min (c.snapshotSendOffset[peer]?.getD 0) snapBytes.length
      let chunkCap := max c.timing.maxSnapshotChunkBytes 64
      let chunkEnd := min (offset + chunkCap) snapBytes.length
      .sendMessage peer (.installSnapshotChunk c.currentTerm c.localId m.includedIndex
        m.includedTerm m.stateRootDigest
        (computeSnapshotTransferSha256 m.includedIndex m.includedTerm m.stateRootDigest snapBytes)
        snapBytes.length offset ((snapBytes.drop offset).take (chunkEnd - offset))
        (decide (snapBytes.length ≤ chunkEnd)))
    else .sendMessage peer entriesMessage
  | _, _ => .sendMessage peer entriesMessage

def broadcastReplicationOrHeartbeat (quorumRoundId : ℕ) : List ConsensusEffect :=
  c.peers.map fun peer => c.buildReplicationForPeer peer quorumRoundId

/-- The table of pending rounds after making room: with 256 of them, the oldest one that no read
waits for goes. -/
def prunedQuorumRounds : Table ℕ PendingQuorumRound :=
  if 256 ≤ c.quorumRounds.size then
    match c.quorumRounds.toList.find? fun round => round.2.waitingReadIds.isEmpty with
    | some oldest => c.quorumRounds.erase oldest.1
    | none => c.quorumRounds
  else c.quorumRounds

/-- Opens a round; its number is the counter before the call. -/
def allocateQuorumRound (readId : Option ℕ) : ConsensusCore :=
  { c with
    nextQuorumRoundId := c.nextQuorumRoundId + 1
    quorumRounds := c.prunedQuorumRounds.insert c.nextQuorumRoundId
      ⟨c.currentTerm, c.commitIndex, {c.localDomain}, readId.toList⟩ }

def startRound (readId : Option ℕ) : ConsensusCore × List ConsensusEffect :=
  let c' := c.allocateQuorumRound readId
  (c', c'.broadcastReplicationOrHeartbeat c.nextQuorumRoundId)

def startRoundFor (peer : CellIdentity) : ConsensusCore × List ConsensusEffect :=
  let c' := c.allocateQuorumRound none
  (c', [c'.buildReplicationForPeer peer c.nextQuorumRoundId])

def sendToPeers (message : RaftMessage) : List ConsensusEffect :=
  c.peers.map fun peer => .sendMessage peer message

def startPreVote : ConsensusCore × List ConsensusEffect :=
  ({ c with
      role := .preCandidate
      knownLeader := none
      ticksSinceLeaderContact := 0
      preVoteProspectiveTerm := c.currentTerm + 1
      preVotesGrantedDomains := {c.localDomain} },
    c.sendToPeers (.requestPreVote (c.currentTerm + 1) c.localId c.lastLogIndex c.lastLogTerm))

def startRealElection : ConsensusCore × List ConsensusEffect :=
  ({ c with
      currentTerm := c.currentTerm + 1
      role := .candidate
      votedFor := some c.localId
      knownLeader := none
      ticksSinceLeaderContact := 0
      preVotesGrantedDomains := ∅
      votesGrantedDomains := {c.localDomain}
      quorumRounds := ∅
      leaderLease := ⟨c.currentTerm + 1, 0, 0⟩ },
    .persistHardState (c.currentTerm + 1) (some c.localId) ::
      c.sendToPeers (.requestVote (c.currentTerm + 1) c.localId c.lastLogIndex c.lastLogTerm))

def stepDownToHigherTerm (higherTerm : ℕ) : ConsensusCore × List ConsensusEffect :=
  let wasLeader := c.role = .leader
  let abortedReads := c.quorumRounds.toList.flatMap fun round => round.2.waitingReadIds
  ({ c with
      formerLeaderTerm := if wasLeader then some c.currentTerm else c.formerLeaderTerm
      quorumRounds := ∅
      currentTerm := higherTerm
      role := .follower
      votedFor := none
      knownLeader := none
      preVotesGrantedDomains := ∅
      votesGrantedDomains := ∅
      snapshotSendOffset := ∅
      leaderLease := ⟨higherTerm, 0, 0⟩ },
    [.persistHardState higherTerm none] ++
      (if wasLeader then [.leaderSteppedDown c.currentTerm higherTerm] else []) ++
      abortedReads.map fun rid =>
        .proposalRejected (some rid) (.staleLeaderTerm c.currentTerm higherTerm none))

def observeTerm (term : ℕ) : ConsensusCore × List ConsensusEffect :=
  if c.currentTerm < term then c.stepDownToHigherTerm term else (c, [])

/-- A candidate's last entry is at least as recent as the local one. -/
def logUpToDate (candLastIndex candLastTerm : ℕ) : Bool :=
  c.lastLogTerm < candLastTerm ∨ (c.lastLogTerm = candLastTerm ∧ c.lastLogIndex ≤ candLastIndex)

def onRequestPreVote (prospectiveTerm : ℕ) (candidateId : CellIdentity)
    (candLastIndex candLastTerm : ℕ) : List ConsensusEffect :=
  let heardLiveLeaderRecently := c.role = .leader ∨
    (c.knownLeader.isSome ∧ c.ticksSinceLeaderContact < c.timing.leaderLeaseTicks)
  [.sendMessage candidateId (.requestPreVoteResponse c.currentTerm prospectiveTerm c.localId
    (decide (c.currentTerm < prospectiveTerm ∧ ¬ heardLiveLeaderRecently ∧
      c.logUpToDate candLastIndex candLastTerm = true)))]

def grantedDomains (voterId : CellIdentity) (voteGranted : Bool)
    (domains : Finset ControlDomainId) : Finset ControlDomainId :=
  match c.roster.domainOf voterId with
  | some domain => if voteGranted then insert domain domains else domains
  | none => domains

def onRequestPreVoteResponse (responderTerm prospectiveTerm : ℕ)
    (voterId : CellIdentity) (voteGranted : Bool) : ConsensusCore × List ConsensusEffect :=
  if c.currentTerm < responderTerm then c.stepDownToHigherTerm responderTerm
  else if c.role ≠ .preCandidate ∨ prospectiveTerm ≠ c.preVoteProspectiveTerm ∨
      prospectiveTerm ≠ c.currentTerm + 1 then (c, [])
  else
    let c := { c with
      preVotesGrantedDomains := c.grantedDomains voterId voteGranted c.preVotesGrantedDomains }
    if c.roster.quorumSize ≤ c.preVotesGrantedDomains.card then c.startRealElection else (c, [])

def voteResponse (candidateId : CellIdentity) (granted : Bool) : ConsensusEffect :=
  .sendMessage candidateId (.requestVoteResponse c.currentTerm c.localId granted)

def castVote (candidateId : CellIdentity) (candLastIndex : ℕ)
    (candLastTerm : ℕ) : ConsensusCore × List ConsensusEffect :=
  if (c.votedFor = none ∨ c.votedFor = some candidateId) ∧
      c.logUpToDate candLastIndex candLastTerm = true then
    ({ c with votedFor := some candidateId, ticksSinceLeaderContact := 0 },
      [.persistHardState c.currentTerm (some candidateId), c.voteResponse candidateId true])
  else (c, [c.voteResponse candidateId false])

def onRequestVote (term : ℕ) (candidateId : CellIdentity) (candLastIndex : ℕ)
    (candLastTerm : ℕ) : ConsensusCore × List ConsensusEffect :=
  let (c, effects) := c.observeTerm term
  if term < c.currentTerm then (c, effects ++ [c.voteResponse candidateId false])
  else
    let (c, cast) := c.castVote candidateId candLastIndex candLastTerm
    (c, effects ++ cast)

def voterTable (index : CellIdentity → ℕ) : Table CellIdentity ℕ :=
  c.roster.members.foldl
    (fun (t : Table CellIdentity ℕ) v => t.insert v.cellIdentity (index v.cellIdentity)) ∅

def becomeLeader : ConsensusCore × List ConsensusEffect :=
  let last := c.lastLogIndex
  let c := { c with
    role := .leader
    knownLeader := some c.localId
    formerLeaderTerm := none
    ticksSinceHeartbeatSent := 0
    nextIndex := c.voterTable fun _ => last + 1
    matchIndex := c.voterTable fun cell => if cell = c.localId then last else 0
    snapshotSendOffset := ∅ }
  c.startRound none

def onRequestVoteResponse (term : ℕ) (voterId : CellIdentity) (voteGranted : Bool) :
    ConsensusCore × List ConsensusEffect :=
  if c.currentTerm < term then c.stepDownToHigherTerm term
  else if c.role ≠ .candidate ∨ term ≠ c.currentTerm then (c, [])
  else
    let c := { c with
      votesGrantedDomains := c.grantedDomains voterId voteGranted c.votesGrantedDomains }
    if c.roster.quorumSize ≤ c.votesGrantedDomains.card then c.becomeLeader else (c, [])

def onTick : ConsensusCore × List ConsensusEffect :=
  if c.roster.len = 1 then (c, [])
  else
    let c := { c with
      leaderLease := { c.leaderLease with remainingTicks := c.leaderLease.remainingTicks - 1 } }
    if c.role = .leader then
      let c := { c with ticksSinceHeartbeatSent := c.ticksSinceHeartbeatSent + 1 }
      if c.timing.heartbeatIntervalTicks ≤ c.ticksSinceHeartbeatSent then
        startRound { c with ticksSinceHeartbeatSent := 0 } none
      else (c, [])
    else
      let c := { c with ticksSinceLeaderContact := c.ticksSinceLeaderContact + 1 }
      if c.timing.electionTimeoutTicks ≤ c.ticksSinceLeaderContact then c.startPreVote
      else (c, [])

def checkLeaderGate (expectedLeaderTerm : Option ℕ) : Except ProposalRejectReason Unit :=
  match expectedLeaderTerm with
  | some expectedTerm =>
    if expectedTerm < c.currentTerm then
      .error (.staleLeaderTerm expectedTerm c.currentTerm c.knownLeader)
    else if c.role ≠ .leader ∨ expectedTerm ≠ c.currentTerm then
      .error (.notLeader c.knownLeader c.currentTerm)
    else .ok ()
  | none =>
    if c.role ≠ .leader then
      match c.formerLeaderTerm with
      | some oldTerm =>
        if oldTerm < c.currentTerm ∧ c.knownLeader ≠ some c.localId then
          .error (.staleLeaderTerm oldTerm c.currentTerm c.knownLeader)
        else .error (.notLeader c.knownLeader c.currentTerm)
      | none => .error (.notLeader c.knownLeader c.currentTerm)
    else .ok ()

def appendProposal (entry : RaftLogEntry) : ConsensusCore :=
  { c with
    logTail := c.logTail ++ [entry]
    matchIndex := c.matchIndex.insert c.localId entry.index
    nextIndex := c.nextIndex.insert c.localId (entry.index + 1) }

def onPropose (proposal : ControlPlaneProposal) (expectedLeaderTerm : Option ℕ) :
    ConsensusCore × List ConsensusEffect :=
  match c.checkLeaderGate expectedLeaderTerm with
  | .error reason => (c, [.proposalRejected none reason])
  | .ok () =>
    let entry := RaftLogEntry.new (c.lastLogIndex + 1) c.currentTerm proposal
    let c := c.appendProposal entry
    if c.roster.len = 1 then
      ({ c with commitIndex := entry.index },
        [.appendLogEntries [entry], .advanceCommitIndex entry.index c.currentTerm [entry]])
    else
      let (c, sent) := startRound { c with ticksSinceHeartbeatSent := 0 } none
      (c, .appendLogEntries [entry] :: sent)

def onRequestLinearizableRead (readId : ℕ) (expectedLeaderTerm : Option ℕ) :
    ConsensusCore × List ConsensusEffect :=
  match c.checkLeaderGate expectedLeaderTerm with
  | .error reason => (c, [.proposalRejected (some readId) reason])
  | .ok () =>
    if c.roster.len = 1 then
      (c, [.linearizableReadConfirmed readId c.currentTerm c.commitIndex])
    else
      startRound { c with ticksSinceHeartbeatSent := 0 } (some readId)

end ConsensusCore

end Nlos.Consensus
