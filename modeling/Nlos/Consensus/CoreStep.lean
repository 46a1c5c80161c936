import Nlos.Consensus.CoreElection

/-!
# The consensus core: replication and the step function

The leader's commitment and read rounds, the merge of a leader's entries into a follower's log,
snapshot transfer, and the step function that dispatches an input to its handler.
-/

namespace Nlos.Consensus

open Lib

namespace ConsensusCore

variable (c : ConsensusCore)

def domainsMatching (index : ℕ) : Finset ControlDomainId :=
  ((c.roster.members.filter fun v => index ≤ c.matchIndex[v.cellIdentity]?.getD 0).map
    VoterReplica.controlDomainId).toFinset

def committable (index : ℕ) : Bool :=
  c.termAt index = some c.currentTerm ∧ c.roster.quorumSize ≤ (c.domainsMatching index).card

def bestCommit : ℕ :=
  (List.range' (c.commitIndex + 1) (c.lastLogIndex - c.commitIndex)).foldl
    (fun best index => if c.committable index then index else best) c.commitIndex

def advanceCommit (newCommit : ℕ) : ConsensusCore × List ConsensusEffect :=
  ({ c with commitIndex := newCommit },
    [.advanceCommitIndex newCommit c.currentTerm (c.collectRange (c.commitIndex + 1) newCommit)])

def tryAdvanceLeaderCommit : ConsensusCore × List ConsensusEffect :=
  if c.commitIndex < c.bestCommit then c.advanceCommit c.bestCommit else (c, [])

def hasAuthoritativeCommitViewInCurrentTerm : Bool :=
  (c.commitIndex = 0 ∧ c.lastLogIndex = 0) ∨ c.termAt c.commitIndex = some c.currentTerm

def roundAcknowledged (round : PendingQuorumRound) : Bool :=
  round.term = c.currentTerm ∧ c.roster.quorumSize ≤ round.ackedDomains.card

def roundConfirmed (round : PendingQuorumRound) : Bool :=
  c.roundAcknowledged round = true ∧
    (c.hasAuthoritativeCommitViewInCurrentTerm = true ∨ round.waitingReadIds.isEmpty = true)

def renewedLease : TermBoundLeaderLease :=
  c.quorumRounds.toList.foldl
    (fun lease round =>
      if c.roundAcknowledged round.2 = true ∧ lease.lastConfirmedRound ≤ round.1 then
        ⟨c.currentTerm, c.timing.leaderLeaseTicks, round.1⟩
      else lease) c.leaderLease

def sweepConfirmedQuorumRounds : ConsensusCore × List ConsensusEffect :=
  let confirmed := c.quorumRounds.toList.filter fun round => c.roundConfirmed round.2
  ({ c with
      leaderLease := c.renewedLease
      quorumRounds := confirmed.foldl (fun rounds round => rounds.erase round.1) c.quorumRounds },
    confirmed.flatMap fun round => round.2.waitingReadIds.map fun readId =>
      .linearizableReadConfirmed readId c.currentTerm
        (max c.commitIndex round.2.commitIndexAtIssue))

/-- The outcome of merging entries into the tail; `intact` is false when an entry's digest was
wrong and the rest was not looked at. -/
structure Splice where
  logTail : List RaftLogEntry
  truncations : List ConsensusEffect
  newlyAppended : List RaftLogEntry
  intact : Bool

def spliceEntry (base commitIndex : ℕ) (logTail : List RaftLogEntry)
    (entry : RaftLogEntry) : Splice :=
  let pos := entry.index - base
  if entry.index < base then ⟨logTail, [], [], true⟩
  else
    match logTail[pos]? with
    | some existing =>
      if existing.term ≠ entry.term ∧ commitIndex < entry.index then
        ⟨logTail.take pos ++ [entry], [.truncateLogSuffixFrom entry.index], [entry], true⟩
      else ⟨logTail, [], [], true⟩
    | none =>
      if pos = logTail.length then ⟨logTail ++ [entry], [], [entry], true⟩
      else ⟨logTail, [], [], true⟩

def spliceEntries (base commitIndex : ℕ) (logTail : List RaftLogEntry) :
    List RaftLogEntry → Splice
  | [] => ⟨logTail, [], [], true⟩
  | entry :: rest =>
    if entry.verifyIntegrity then
      let first := spliceEntry base commitIndex logTail entry
      let others := spliceEntries base commitIndex first.logTail rest
      ⟨others.logTail, first.truncations ++ others.truncations,
        first.newlyAppended ++ others.newlyAppended, others.intact⟩
    else ⟨logTail, [], [], false⟩

def appendResponse (leaderId : CellIdentity) (success : Bool) (matchIndex : ℕ)
    (conflictTerm : Option ℕ) (conflictIndex quorumRoundId : ℕ) : ConsensusEffect :=
  .sendMessage leaderId (.appendEntriesResponse c.currentTerm c.localId success matchIndex
    conflictTerm conflictIndex quorumRoundId)

def followLeaderCommit (leaderCommit : ℕ) : ConsensusCore × List ConsensusEffect :=
  if c.commitIndex < leaderCommit ∧ c.commitIndex < min leaderCommit c.lastLogIndex then
    c.advanceCommit (min leaderCommit c.lastLogIndex)
  else (c, [])

def appendEffects (newlyAppended : List RaftLogEntry) : List ConsensusEffect :=
  if newlyAppended.isEmpty then [] else [.appendLogEntries newlyAppended]

def reconcileAndCommitEntries (leaderId : CellIdentity) (entries : List RaftLogEntry)
    (leaderCommit quorumRoundId : ℕ) : ConsensusCore × List ConsensusEffect :=
  let s := spliceEntries c.firstUncompactedIndex c.commitIndex c.logTail entries
  let c := { c with logTail := s.logTail }
  if s.intact then
    let (c, advanced) := c.followLeaderCommit leaderCommit
    (c, s.truncations ++ appendEffects s.newlyAppended ++ advanced ++
      [c.appendResponse leaderId true c.lastLogIndex none 0 quorumRoundId])
  else
    (c, s.truncations ++ [c.appendResponse leaderId false 0 none (c.commitIndex + 1) quorumRoundId])

def followLeader (leaderId : CellIdentity) : ConsensusCore :=
  { c with role := .follower, knownLeader := some leaderId, ticksSinceLeaderContact := 0 }

/-- Where a leader should resume after a term mismatch at `prevLogIndex`. -/
def firstOfConflictTerm (prevLogIndex localPrevTerm : ℕ) : ℕ :=
  let floorIdx := max (c.commitIndex + 1) c.firstUncompactedIndex
  match c.logTail.find? fun e => floorIdx ≤ e.index ∧ e.term = localPrevTerm with
  | some e => e.index
  | none => max prevLogIndex floorIdx

/-- The consistency check at `prevLogIndex` and the merge, once the leader is accepted. -/
def checkAndReconcile (leaderId : CellIdentity) (prevLogIndex : ℕ)
    (prevLogTerm : ℕ) (entries : List RaftLogEntry) (leaderCommit : ℕ)
    (quorumRoundId : ℕ) : ConsensusCore × List ConsensusEffect :=
  if prevLogIndex < c.snapshotIndex then
    match entries.filter fun e => c.snapshotIndex < e.index with
    | [] =>
      (c, [c.appendResponse leaderId true c.lastLogIndex none (c.snapshotIndex + 1) quorumRoundId])
    | first :: rest =>
      if first.index ≠ c.snapshotIndex + 1 then
        (c, [c.appendResponse leaderId false 0 none (c.snapshotIndex + 1) quorumRoundId])
      else c.reconcileAndCommitEntries leaderId (first :: rest) leaderCommit quorumRoundId
  else
    match c.termAt prevLogIndex with
    | none =>
      (c, [c.appendResponse leaderId false 0 none (c.lastLogIndex + 1) quorumRoundId])
    | some localPrevTerm =>
      if localPrevTerm ≠ prevLogTerm then
        (c, [c.appendResponse leaderId false 0 (some localPrevTerm)
          (c.firstOfConflictTerm prevLogIndex localPrevTerm) quorumRoundId])
      else c.reconcileAndCommitEntries leaderId entries leaderCommit quorumRoundId

def onAppendEntries (term : ℕ) (leaderId : CellIdentity) (prevLogIndex : ℕ)
    (prevLogTerm : ℕ) (entries : List RaftLogEntry) (leaderCommit : ℕ)
    (quorumRoundId : ℕ) : ConsensusCore × List ConsensusEffect :=
  let (c, effects) := c.observeTerm term
  if term < c.currentTerm then
    (c, effects ++ [c.appendResponse leaderId false 0 none (c.lastLogIndex + 1) quorumRoundId])
  else
    let (c, merged) := (c.followLeader leaderId).checkAndReconcile leaderId prevLogIndex
      prevLogTerm entries leaderCommit quorumRoundId
    (c, effects ++ merged)

def acknowledgeRound (followerId : CellIdentity) (quorumRoundId : ℕ) : ConsensusCore :=
  match c.roster.domainOf followerId, c.quorumRounds[quorumRoundId]? with
  | some domain, some round =>
    if round.term = c.currentTerm then
      { c with
        quorumRounds := c.quorumRounds.insert quorumRoundId
          { round with ackedDomains := insert domain round.ackedDomains } }
    else c
  | _, _ => c

def recordMatch (followerId : CellIdentity) (matchIndex : ℕ) : ConsensusCore :=
  { c with
    matchIndex := c.matchIndex.insert followerId matchIndex
    nextIndex := c.nextIndex.insert followerId (matchIndex + 1)
    snapshotSendOffset := c.snapshotSendOffset.erase followerId }

def pipelineTail (followerId : CellIdentity) (updatedMatch : ℕ) :
    ConsensusCore × List ConsensusEffect :=
  if updatedMatch < c.lastLogIndex then c.startRoundFor followerId else (c, [])

def backedUpNext (conflictTerm : Option ℕ) (conflictIndex : ℕ) : ℕ :=
  match conflictTerm with
  | some ct =>
    match c.logTail.reverse.find? fun e => e.term = ct with
    | some e => e.index + 1
    | none => max conflictIndex 1
  | none => max conflictIndex 1

def onAppendSuccess (followerId : CellIdentity) (matchIndex quorumRoundId : ℕ) :
    ConsensusCore × List ConsensusEffect :=
  let updatedMatch := min (max (c.matchIndex[followerId]?.getD 0) matchIndex) c.lastLogIndex
  let (c, advanced) := (c.recordMatch followerId updatedMatch).tryAdvanceLeaderCommit
  let (c, confirmed) := (c.acknowledgeRound followerId quorumRoundId).sweepConfirmedQuorumRounds
  let (c, sent) := c.pipelineTail followerId updatedMatch
  (c, advanced ++ confirmed ++ sent)

def onAppendRefused (followerId : CellIdentity) (conflictTerm : Option ℕ)
    (conflictIndex : ℕ) : ConsensusCore × List ConsensusEffect :=
  let currentNext := c.nextIndex[followerId]?.getD 1
  let nextTry := max (min (c.backedUpNext conflictTerm conflictIndex) (max (currentNext - 1) 1)) 1
  let c := { c with
    nextIndex := c.nextIndex.insert followerId nextTry
    snapshotSendOffset := c.snapshotSendOffset.erase followerId }
  c.startRoundFor followerId

def onAppendEntriesResponse (term : ℕ) (followerId : CellIdentity) (success : Bool)
    (matchIndex : ℕ) (conflictTerm : Option ℕ) (conflictIndex : ℕ)
    (quorumRoundId : ℕ) : ConsensusCore × List ConsensusEffect :=
  if c.currentTerm < term then c.stepDownToHigherTerm term
  else if c.role ≠ .leader ∨ term ≠ c.currentTerm then (c, [])
  else if success then c.onAppendSuccess followerId matchIndex quorumRoundId
  else c.onAppendRefused followerId conflictTerm conflictIndex

/-! ## Snapshot transfer -/

def snapshotResponse (leaderId : CellIdentity) (lastIncludedIndex nextOffset : ℕ)
    (installed : Bool) : ConsensusEffect :=
  .sendMessage leaderId (.installSnapshotResponse c.currentTerm c.localId lastIncludedIndex
    nextOffset installed)

/-- Drops what was staged and asks for the transfer to restart. -/
def resetAndNack (leaderId : CellIdentity) (lastIncludedIndex : ℕ) :
    ConsensusCore × List ConsensusEffect :=
  ({ c with inboundSnapshot := none }, [c.snapshotResponse leaderId lastIncludedIndex 0 false])

/-- Replaces the log up to a received snapshot, keeping the suffix after it only if the log held
the boundary entry. -/
def installSnapshot (snapshot : SnapshotMetadata) (snapshotBytes : List UInt8) : ConsensusCore :=
  { c with
    inboundSnapshot := none
    logTail :=
      if c.termAt snapshot.includedIndex = some snapshot.includedTerm then
        c.logTail.filter fun e => snapshot.includedIndex < e.index
      else []
    snapshotMeta := some snapshot
    snapshotBytes := some snapshotBytes
    commitIndex := max c.commitIndex snapshot.includedIndex }

def completeSnapshot (staging : InboundSnapshotStaging) : ConsensusCore × List ConsensusEffect :=
  let snapshot : SnapshotMetadata :=
    ⟨staging.lastIncludedIndex, staging.lastIncludedTerm, staging.stateRootDigest⟩
  if computeSnapshotTransferSha256 staging.lastIncludedIndex staging.lastIncludedTerm
      staging.stateRootDigest staging.buffer ≠ staging.snapshotSha256 then
    c.resetAndNack staging.leaderId staging.lastIncludedIndex
  else
    (c.installSnapshot snapshot staging.buffer, [.installSnapshot snapshot staging.buffer,
        c.snapshotResponse staging.leaderId staging.lastIncludedIndex staging.totalBytes true])

/-- The transfer a chunk belongs to, with nothing received yet. -/
def freshStaging (term : ℕ) (leaderId : CellIdentity) (lastIncludedIndex : ℕ)
    (lastIncludedTerm : ℕ) (stateRootDigest snapshotSha256 : Digest)
    (totalBytes : ℕ) : InboundSnapshotStaging :=
  ⟨term, leaderId, lastIncludedIndex, lastIncludedTerm, stateRootDigest, snapshotSha256,
    totalBytes, []⟩

/-- The staged transfer to extend: the one in progress if the chunk belongs to it, and a new one
if the chunk is a first one. -/
def stagingFor (fresh : InboundSnapshotStaging) (offset : ℕ) : Option InboundSnapshotStaging :=
  match c.inboundSnapshot with
  | some s => if { s with buffer := [] } = fresh then some s
      else if offset = 0 then some fresh else none
  | none => if offset = 0 then some fresh else none

def stageChunk (staging : InboundSnapshotStaging) (offset : ℕ) (chunkData : List UInt8)
    (done : Bool) : ConsensusCore × List ConsensusEffect :=
  let respond (nextOffset : ℕ) :=
    c.snapshotResponse staging.leaderId staging.lastIncludedIndex nextOffset false
  if offset ≠ staging.buffer.length then
    ({ c with inboundSnapshot := some staging }, [respond staging.buffer.length])
  else
    let staged := { staging with buffer := staging.buffer ++ chunkData }
    if staged.totalBytes < staged.buffer.length then
      c.resetAndNack staging.leaderId staging.lastIncludedIndex
    else if done = false then
      ({ c with inboundSnapshot := some staged }, [respond staged.buffer.length])
    else if staged.buffer.length ≠ staged.totalBytes then
      c.resetAndNack staging.leaderId staging.lastIncludedIndex
    else c.completeSnapshot staged

def onInstallSnapshotChunk (term : ℕ) (leaderId : CellIdentity)
    (lastIncludedIndex lastIncludedTerm : ℕ)
    (stateRootDigest snapshotSha256 : Digest) (totalBytes offset : ℕ) (chunkData : List UInt8)
    (done : Bool) : ConsensusCore × List ConsensusEffect :=
  let (c, effects) := c.observeTerm term
  if term < c.currentTerm then
    (c, effects ++ [c.snapshotResponse leaderId lastIncludedIndex 0 false])
  else
    let c := c.followLeader leaderId
    if lastIncludedIndex ≤ c.commitIndex then
      (c, effects ++ [c.snapshotResponse leaderId lastIncludedIndex totalBytes true])
    else
      let fresh := freshStaging term leaderId lastIncludedIndex lastIncludedTerm stateRootDigest
        snapshotSha256 totalBytes
      match c.stagingFor fresh offset with
      | none =>
        let (c, nack) := c.resetAndNack leaderId lastIncludedIndex
        (c, effects ++ nack)
      | some staging =>
        let (c, staged) := c.stageChunk staging offset chunkData done
        (c, effects ++ staged)

def onSnapshotInstalled (followerId : CellIdentity) (lastIncludedIndex : ℕ) :
    ConsensusCore × List ConsensusEffect :=
  let updated := max (c.matchIndex[followerId]?.getD 0) lastIncludedIndex
  let (c, advanced) := (c.recordMatch followerId updated).tryAdvanceLeaderCommit
  let (c, sent) := c.pipelineTail followerId updated
  (c, advanced ++ sent)

def resumeSnapshotAt (followerId : CellIdentity) (offset : ℕ) :
    ConsensusCore × List ConsensusEffect :=
  startRoundFor
    { c with snapshotSendOffset := c.snapshotSendOffset.insert followerId offset } followerId

def onInstallSnapshotResponse (term : ℕ) (followerId : CellIdentity)
    (lastIncludedIndex nextOffset : ℕ) (installed : Bool) : ConsensusCore × List ConsensusEffect :=
  if c.currentTerm < term then c.stepDownToHigherTerm term
  else if c.role ≠ .leader ∨ term ≠ c.currentTerm then (c, [])
  else if c.snapshotMeta.map SnapshotMetadata.includedIndex ≠ some lastIncludedIndex then (c, [])
  else if installed then c.onSnapshotInstalled followerId lastIncludedIndex
  else if nextOffset = 0 then c.resumeSnapshotAt followerId 0
  else if nextOffset ≤ c.snapshotSendOffset[followerId]?.getD 0 then (c, [])
  else c.resumeSnapshotAt followerId nextOffset

def dispatchMessage : RaftMessage → ConsensusCore × List ConsensusEffect
  | .requestPreVote prospectiveTerm candidateId lastLogIndex lastLogTerm =>
    (c, c.onRequestPreVote prospectiveTerm candidateId lastLogIndex lastLogTerm)
  | .requestPreVoteResponse term prospectiveTerm voterId voteGranted =>
    c.onRequestPreVoteResponse term prospectiveTerm voterId voteGranted
  | .requestVote term candidateId lastLogIndex lastLogTerm =>
    c.onRequestVote term candidateId lastLogIndex lastLogTerm
  | .requestVoteResponse term voterId voteGranted =>
    c.onRequestVoteResponse term voterId voteGranted
  | .appendEntries term leaderId prevLogIndex prevLogTerm entries leaderCommit quorumRoundId =>
    c.onAppendEntries term leaderId prevLogIndex prevLogTerm entries leaderCommit quorumRoundId
  | .appendEntriesResponse term followerId success matchIndex conflictTerm conflictIndex
      quorumRoundId =>
      c.onAppendEntriesResponse term followerId success matchIndex conflictTerm conflictIndex
        quorumRoundId
  | .installSnapshotChunk term leaderId lastIncludedIndex lastIncludedTerm stateRootDigest
      snapshotSha256 totalBytes offset chunkData done =>
      c.onInstallSnapshotChunk term leaderId lastIncludedIndex lastIncludedTerm stateRootDigest
        snapshotSha256 totalBytes offset chunkData done
  | .installSnapshotResponse term followerId lastIncludedIndex nextOffset installed =>
    c.onInstallSnapshotResponse term followerId lastIncludedIndex nextOffset installed

/-- A message is dropped unless its sender is another voter and is who the message names. -/
def onMessage (sender : CellIdentity) (message : RaftMessage) :
    ConsensusCore × List ConsensusEffect :=
  if c.roster.contains sender = false ∨ sender = c.localId then (c, [])
  else if message.claimedSender ≠ sender then (c, [])
  else c.dispatchMessage message

def step (input : ConsensusInput) : ConsensusCore × List ConsensusEffect :=
  match input with
  | .tick => c.onTick
  | .propose proposal expectedLeaderTerm => c.onPropose proposal expectedLeaderTerm
  | .requestLinearizableRead readId expectedLeaderTerm =>
    c.onRequestLinearizableRead readId expectedLeaderTerm
  | .receiveMessage sender message => c.onMessage sender message

end ConsensusCore

end Nlos.Consensus
