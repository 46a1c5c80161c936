import Nlos.Consensus.CommandCodec

/-!
# Log entries, messages and effects

The vocabulary of the consensus core: log entries with their integrity digest, the protocol
messages, the inputs that drive a replica and the effects it emits. Terms, log indices, round
numbers and byte offsets are unbounded here: the source saturates at `u64::MAX`, and the store
refuses terms and indices beyond `i64::MAX` long before.
-/

namespace Nlos.Consensus

open Lib

def logEntryHashDomain : List UInt8 := "llmos/consensus/log-entry/v1".toUTF8.toList

def snapshotWireHashDomain : List UInt8 := "llmos/consensus/install-snapshot/v1".toUTF8.toList

def computeLogEntrySha256 (logIndex term : ℕ) (commandKind : UInt8)
    (idempotencyKey : IdempotencyKey) (payloadBytes : List UInt8) : Digest :=
  Sha256.digest (logEntryHashDomain ++ beBytes 8 logIndex ++ beBytes 8 term ++ [commandKind] ++
    idempotencyKey.bytes ++ beBytes 8 payloadBytes.length ++ payloadBytes)

def computeSnapshotTransferSha256 (includedIndex includedTerm : ℕ)
    (stateRootDigest : Digest) (snapshotBytes : List UInt8) : Digest :=
  Sha256.digest (snapshotWireHashDomain ++ beBytes 8 includedIndex ++ beBytes 8 includedTerm ++
    stateRootDigest.bytes ++ beBytes 8 snapshotBytes.length ++ snapshotBytes)

structure RaftLogEntry where
  (index term : ℕ)
  proposal : ControlPlaneProposal
  entrySha256 : Digest
deriving DecidableEq

namespace RaftLogEntry

def expectedSha256 (index term : ℕ) (proposal : ControlPlaneProposal) : Digest :=
  computeLogEntrySha256 index term proposal.command.familyCode.asU8 proposal.idempotencyKey
    proposal.encodeCommandBody

def new (index term : ℕ) (proposal : ControlPlaneProposal) : RaftLogEntry :=
  ⟨index, term, proposal, expectedSha256 index term proposal⟩

def verifyIntegrity (e : RaftLogEntry) : Bool :=
  e.entrySha256 = expectedSha256 e.index e.term e.proposal

@[simp] lemma verifyIntegrity_new (index term : ℕ)
    (proposal : ControlPlaneProposal) : (new index term proposal).verifyIntegrity = true := by
  simp [verifyIntegrity, new]

/-- The entry that the store reloads: the row of an entry holds its encoded command body, from
which the command is decoded again. -/
def stored (e : RaftLogEntry) : RaftLogEntry :=
  match ControlPlaneProposal.decodeCommandBody e.proposal.command.familyCode
      e.proposal.idempotencyKey e.proposal.encodeCommandBody with
  | .ok proposal => { e with proposal := proposal }
  | .error _ => e

lemma stored_eq (e : RaftLogEntry) : e.stored = { e with proposal := e.proposal.onWire } := by
  rw [stored, decodeCommandBody_encodeCommandBody]

@[simp] lemma index_stored (e : RaftLogEntry) : e.stored.index = e.index := by rw [stored_eq]

@[simp] lemma term_stored (e : RaftLogEntry) : e.stored.term = e.term := by rw [stored_eq]

/-- Storing a reloaded entry changes nothing more. -/
@[simp] lemma stored_stored (e : RaftLogEntry) : e.stored.stored = e.stored := by
  simp [stored_eq]

/-- The digest covers the encoded body only, so that a reloaded entry passes its check. -/
@[simp] lemma verifyIntegrity_stored (e : RaftLogEntry) :
    e.stored.verifyIntegrity = e.verifyIntegrity := by
  have hsha : expectedSha256 e.index e.term e.proposal.onWire =
      expectedSha256 e.index e.term e.proposal := by simp [expectedSha256]
  simp only [stored_eq, verifyIntegrity, hsha]

end RaftLogEntry

structure SnapshotMetadata where
  (includedIndex includedTerm : ℕ)
  stateRootDigest : Digest
deriving DecidableEq

inductive ConsensusRole where
  | follower
  | preCandidate
  | candidate
  | leader
deriving DecidableEq

structure TermBoundLeaderLease where
  (term remainingTicks lastConfirmedRound : ℕ)
deriving DecidableEq

inductive RaftMessage where
  | requestPreVote (prospectiveTerm : ℕ) (candidateId : CellIdentity) (lastLogIndex lastLogTerm : ℕ)
  | requestPreVoteResponse (term prospectiveTerm : ℕ) (voterId : CellIdentity) (voteGranted : Bool)
  | requestVote (term : ℕ) (candidateId : CellIdentity) (lastLogIndex : ℕ) (lastLogTerm : ℕ)
  | requestVoteResponse (term : ℕ) (voterId : CellIdentity) (voteGranted : Bool)
  | appendEntries (term : ℕ) (leaderId : CellIdentity) (prevLogIndex : ℕ)
      (prevLogTerm : ℕ) (entries : List RaftLogEntry) (leaderCommit : ℕ) (quorumRoundId : ℕ)
  | appendEntriesResponse (term : ℕ) (followerId : CellIdentity) (success : Bool)
      (matchIndex : ℕ) (conflictTerm : Option ℕ) (conflictIndex : ℕ) (quorumRoundId : ℕ)
  | installSnapshotChunk (term : ℕ) (leaderId : CellIdentity)
      (lastIncludedIndex lastIncludedTerm : ℕ)
      (stateRootDigest snapshotSha256 : Digest) (totalBytes offset : ℕ) (chunkData : List UInt8)
      (done : Bool)
  | installSnapshotResponse (term : ℕ) (followerId : CellIdentity)
      (lastIncludedIndex nextOffset : ℕ) (installed : Bool)
deriving DecidableEq

def RaftMessage.claimedSender : RaftMessage → CellIdentity
  | .requestPreVote _ candidateId _ _ => candidateId
  | .requestPreVoteResponse _ _ voterId _ => voterId
  | .requestVote _ candidateId _ _ => candidateId
  | .requestVoteResponse _ voterId _ => voterId
  | .appendEntries _ leaderId _ _ _ _ _ => leaderId
  | .appendEntriesResponse _ followerId _ _ _ _ _ => followerId
  | .installSnapshotChunk _ leaderId _ _ _ _ _ _ _ _ => leaderId
  | .installSnapshotResponse _ followerId _ _ _ => followerId

inductive ProposalRejectReason where
  | staleLeaderTerm (attemptedTerm currentTerm : ℕ) (knownLeader : Option CellIdentity)
  | notLeader (knownLeader : Option CellIdentity) (currentTerm : ℕ)
deriving DecidableEq

inductive ConsensusInput where
  | tick
  | propose (proposal : ControlPlaneProposal) (expectedLeaderTerm : Option ℕ)
  | requestLinearizableRead (readId : ℕ) (expectedLeaderTerm : Option ℕ)
  | receiveMessage (sender : CellIdentity) (message : RaftMessage)
deriving DecidableEq

inductive ConsensusEffect where
  | persistHardState (currentTerm : ℕ) (votedFor : Option CellIdentity)
  | installSnapshot (snapshot : SnapshotMetadata) (snapshotBytes : List UInt8)
  | truncateLogSuffixFrom (fromIndex : ℕ)
  | appendLogEntries (entries : List RaftLogEntry)
  | advanceCommitIndex (commitIndex term : ℕ) (newlyCommitted : List RaftLogEntry)
  | leaderSteppedDown (abortedTerm newTerm : ℕ)
  | linearizableReadConfirmed (readId confirmedTerm : ℕ) (commitIndex : ℕ)
  | proposalRejected (readId : Option ℕ) (reason : ProposalRejectReason)
  | sendMessage (target : CellIdentity) (message : RaftMessage)
deriving DecidableEq

end Nlos.Consensus
