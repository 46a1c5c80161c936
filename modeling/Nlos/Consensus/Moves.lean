import Nlos.Consensus.CoreStep

/-!
# What a step can do

Every step of a replica is a sequence of moves. A move names the part of the state it changes, the
effects it emits and the guards under which the handlers make it; timers, hints and staged snapshot
chunks are left to the quiet move.
-/

namespace Nlos.Consensus

open Lib List ConsensusEffect

variable {message : RaftMessage}

/-- Effects that record nothing and promise nothing. -/
def ConsensusEffect.Quiet : ConsensusEffect → Prop
  | .leaderSteppedDown _ _ => True
  | .proposalRejected _ _ => True
  | .sendMessage _ (.requestPreVote _ _ _ _) => True
  | .sendMessage _ (.requestPreVoteResponse _ _ _ _) => True
  | .sendMessage _ (.requestVoteResponse _ _ granted) => granted = false
  | .sendMessage _ (.appendEntriesResponse _ _ success _ _ _ _) => success = false
  | .sendMessage _ (.installSnapshotResponse _ _ _ _ installed) => installed = false
  | _ => False

namespace ConsensusCore

/-- The state without the fields that only a quiet move changes. -/
def protocol (c : ConsensusCore) : ConsensusCore :=
  { c with
    knownLeader := none
    formerLeaderTerm := none
    ticksSinceLeaderContact := 0
    ticksSinceHeartbeatSent := 0
    preVoteProspectiveTerm := 0
    preVotesGrantedDomains := ∅
    snapshotSendOffset := ∅
    inboundSnapshot := none
    leaderLease := ⟨0, 0, 0⟩ }

lemma protocol_congr {α : Type} (field : ConsensusCore → α)
    (hfield : ∀ d : ConsensusCore, field d.protocol = field d) (h : c'.protocol = c.protocol) :
    field c' = field c := by
  rw [← hfield c', h, hfield c]

/-- The replica receives a message from another voter. -/
structure Hears (input : ConsensusInput) (c : ConsensusCore) (sender : CellIdentity)
    (message : RaftMessage) : Prop where
  input_eq : input = .receiveMessage sender message
  mem : sender ∈ c.roster.cells
  ne : sender ≠ c.localId

/-- The entries of an append message that the replica merges: those after its snapshot when the
message starts below it, and all of them when the entry before them matches. -/
inductive Usable (c : ConsensusCore) (prevLogIndex prevLogTerm : ℕ)
    (entries : List RaftLogEntry) : List RaftLogEntry → Prop
  | aboveSnapshot {first : RaftLogEntry} {rest : List RaftLogEntry} :
      prevLogIndex < c.snapshotIndex →
      entries.filter (fun e => c.snapshotIndex < e.index) = first :: rest →
      first.index = c.snapshotIndex + 1 → Usable c prevLogIndex prevLogTerm entries (first :: rest)
  | matching : c.snapshotIndex ≤ prevLogIndex → c.termAt prevLogIndex = some prevLogTerm →
      Usable c prevLogIndex prevLogTerm entries entries

/-- How far a leader may take a peer's log to match after an acknowledgement. -/
inductive MatchReport (input : ConsensusInput) (c : ConsensusCore) (peer : CellIdentity) :
    ℕ → Prop
  | appended {matchIndex conflictIndex : ℕ} {conflictTerm : Option ℕ} {round : ℕ} :
      Hears input c peer (.appendEntriesResponse c.currentTerm peer true matchIndex conflictTerm
        conflictIndex round) → MatchReport input c peer
        (min (max (c.matchIndex[peer]?.getD 0) matchIndex) c.lastLogIndex)
  | installed {snapshot : SnapshotMetadata} {offset : ℕ} :
      Hears input c peer (.installSnapshotResponse c.currentTerm peer snapshot.includedIndex
        offset true) → c.snapshotMeta = some snapshot →
      MatchReport input c peer (max (c.matchIndex[peer]?.getD 0) snapshot.includedIndex)

inductive Move (input : ConsensusInput) :
    ConsensusCore → List ConsensusEffect → ConsensusCore → Prop
  | quiet {c c' : ConsensusCore} {effects : List ConsensusEffect} :
      c'.protocol = c.protocol → (∀ e ∈ effects, e.Quiet) → Move input c effects c'
  | adopt {c : ConsensusCore} {term : ℕ} : c.currentTerm < term →
      Move input c [.persistHardState term none]
        { c with
          currentTerm := term
          role := .follower
          votedFor := none
          votesGrantedDomains := ∅
          quorumRounds := ∅ }
  | retire {c : ConsensusCore} {role : ConsensusRole} :
      role = .follower ∨ role = .preCandidate → Move input c [] { c with role := role }
  | campaign {c : ConsensusCore} : c.role = .preCandidate →
      Move input c
        (.persistHardState (c.currentTerm + 1) (some c.localId) ::
          c.sendToPeers
            (.requestVote (c.currentTerm + 1) c.localId c.lastLogIndex c.lastLogTerm))
        { c with
          currentTerm := c.currentTerm + 1
          role := .candidate
          votedFor := some c.localId
          votesGrantedDomains := {c.localDomain}
          quorumRounds := ∅ }
  | vote {c : ConsensusCore} {candidate : CellIdentity} {index : ℕ}
      {term : ℕ} :
      Hears input c candidate (.requestVote c.currentTerm candidate index term) →
      c.votedFor = none ∨ c.votedFor = some candidate → c.logUpToDate index term = true →
      Move input c
        [.persistHardState c.currentTerm (some candidate), c.voteResponse candidate true]
        { c with votedFor := some candidate }
  | countVote {c : ConsensusCore} {voter : CellIdentity} {domain : ControlDomainId} :
      c.role = .candidate →
      Hears input c voter (.requestVoteResponse c.currentTerm voter true) →
      c.roster.domainOf voter = some domain →
      Move input c [] { c with votesGrantedDomains := insert domain c.votesGrantedDomains }
  | lead {c : ConsensusCore} : c.role = .candidate →
      c.roster.quorumSize ≤ c.votesGrantedDomains.card →
      Move input c []
        { c with
          role := .leader
          nextIndex := c.voterTable fun _ => c.lastLogIndex + 1
          matchIndex := c.voterTable fun cell => if cell = c.localId then c.lastLogIndex else 0 }
  | openRound {c : ConsensusCore} {readId : Option ℕ} : c.role = .leader →
      (∀ r ∈ readId, ∃ expected, input = .requestLinearizableRead r expected) →
      Move input c [] (c.allocateQuorumRound readId)
  | replicate {c : ConsensusCore} {peer : CellIdentity} {round : ℕ} : c.role = .leader →
      peer ∈ c.peers → round + 1 = c.nextQuorumRoundId →
      Move input c [c.buildReplicationForPeer peer round] c
  | propose {c : ConsensusCore} {proposal : ControlPlaneProposal}
      {expected : Option ℕ} :
      input = .propose proposal expected → c.role = .leader → c.roster.len ≠ 1 →
      Move input c
        [.appendLogEntries [RaftLogEntry.new (c.lastLogIndex + 1) c.currentTerm proposal]]
        (c.appendProposal (RaftLogEntry.new (c.lastLogIndex + 1) c.currentTerm proposal))
  | proposeAlone {c : ConsensusCore} {proposal : ControlPlaneProposal}
      {expected : Option ℕ} {entry : RaftLogEntry} :
      input = .propose proposal expected → c.role = .leader → c.roster.len = 1 →
      entry = RaftLogEntry.new (c.lastLogIndex + 1) c.currentTerm proposal →
      Move input c
        [.appendLogEntries [entry], .advanceCommitIndex entry.index c.currentTerm [entry]]
        { c.appendProposal entry with commitIndex := entry.index }
  | readAlone {c : ConsensusCore} {readId : ℕ} : c.roster.len = 1 →
      Move input c [.linearizableReadConfirmed readId c.currentTerm c.commitIndex] c
  | commit {c : ConsensusCore} {index : ℕ} : c.role = .leader → c.commitIndex < index →
      index ≤ c.lastLogIndex → c.committable index = true →
      Move input c (c.advanceCommit index).2 (c.advanceCommit index).1
  | reconcile {c : ConsensusCore} {leader : CellIdentity} {prevLogIndex leaderCommit : ℕ}
      {prevLogTerm : ℕ} {entries used : List RaftLogEntry} {round : ℕ} :
      Hears input c leader (.appendEntries c.currentTerm leader prevLogIndex prevLogTerm entries
        leaderCommit round) →
      c.role = .follower → Usable c prevLogIndex prevLogTerm entries used →
      Move input c (c.reconcileAndCommitEntries leader used leaderCommit round).2
        (c.reconcileAndCommitEntries leader used leaderCommit round).1
  | covered {c : ConsensusCore} {leader : CellIdentity} {prevLogIndex leaderCommit : ℕ}
      {prevLogTerm : ℕ} {entries : List RaftLogEntry} {round : ℕ} :
      Hears input c leader (.appendEntries c.currentTerm leader prevLogIndex prevLogTerm entries
        leaderCommit round) →
      c.role = .follower → prevLogIndex < c.snapshotIndex →
      (∀ e ∈ entries, e.index ≤ c.snapshotIndex) →
      Move input c
        [c.appendResponse leader true c.lastLogIndex none (c.snapshotIndex + 1) round] c
  | matched {c : ConsensusCore} {peer : CellIdentity} {index : ℕ} : c.role = .leader →
      MatchReport input c peer index → Move input c [] (c.recordMatch peer index)
  | backUp {c : ConsensusCore} {peer : CellIdentity} {index : ℕ} : c.role = .leader →
      index ≤ max (c.nextIndex[peer]?.getD 1 - 1) 1 →
      Move input c [] { c with nextIndex := c.nextIndex.insert peer index }
  | acknowledge {c : ConsensusCore} {peer : CellIdentity} {matchIndex conflictIndex : ℕ}
      {conflictTerm : Option ℕ} {round : ℕ} : c.role = .leader →
      Hears input c peer (.appendEntriesResponse c.currentTerm peer true matchIndex conflictTerm
        conflictIndex round) →
      Move input c [] (c.acknowledgeRound peer round)
  | sweep {c : ConsensusCore} : c.role = .leader →
      Move input c c.sweepConfirmedQuorumRounds.2 c.sweepConfirmedQuorumRounds.1
  | install {c : ConsensusCore} {leader : CellIdentity} {snapshot : SnapshotMetadata}
      {bytes chunk : List UInt8} {offset : ℕ} :
      Hears input c leader (.installSnapshotChunk c.currentTerm leader snapshot.includedIndex
        snapshot.includedTerm snapshot.stateRootDigest
        (computeSnapshotTransferSha256 snapshot.includedIndex snapshot.includedTerm
          snapshot.stateRootDigest bytes) bytes.length offset chunk true) →
      c.role = .follower → c.commitIndex < snapshot.includedIndex →
      Move input c
        [.installSnapshot snapshot bytes,
          c.snapshotResponse leader snapshot.includedIndex bytes.length true]
        (c.installSnapshot snapshot bytes)
  | alreadyInstalled {c : ConsensusCore} {leader : CellIdentity} {index : ℕ}
      {term : ℕ} {root sha : Digest} {total offset : ℕ} {chunk : List UInt8}
      {done : Bool} :
      Hears input c leader
        (.installSnapshotChunk c.currentTerm leader index term root sha total offset chunk done) →
      c.role = .follower → index ≤ c.commitIndex →
      Move input c [c.snapshotResponse leader index total true] c

inductive Moves (input : ConsensusInput) (c : ConsensusCore) :
    List ConsensusEffect → ConsensusCore → Prop
  | refl : Moves input c [] c
  | snoc {effects effects' : List ConsensusEffect} {c' c'' : ConsensusCore} :
      Moves input c effects c' → Move input c' effects' c'' →
      Moves input c (effects ++ effects') c''

variable {input : ConsensusInput} {c c' c'' : ConsensusCore}
  {effects effects' : List ConsensusEffect}

namespace Moves

lemma single (h : Move input c effects c') : Moves input c effects c' := by
  simpa using Moves.refl.snoc h

lemma trans (h : Moves input c effects c') (h' : Moves input c' effects' c'') :
    Moves input c (effects ++ effects') c'' := by
  induction h' with
  | refl => simpa using h
  | snoc _ hmove ih => simpa using ih.snoc hmove

/-- A silent prefix. -/
lemma before (h : Moves input c [] c') (h' : Moves input c' effects c'') :
    Moves input c effects c'' := by simpa using h.trans h'

lemma quiet (hstate : c'.protocol = c.protocol) (heffects : ∀ e ∈ effects, e.Quiet) :
    Moves input c effects c' := single (.quiet hstate heffects)

/-- A change of timers and hints only. -/
lemma silent (hstate : c'.protocol = c.protocol) : Moves input c [] c' :=
  quiet hstate (by simp)

lemma of_silent (h : Moves input c' effects c'') (hstate : c'.protocol = c.protocol) :
    Moves input c effects c'' := (silent hstate).before h

lemma to_silent (h : Moves input c effects c') (hstate : c''.protocol = c'.protocol) :
    Moves input c effects c'' := by simpa using h.trans (silent hstate)

/-- What every move keeps holds after all of them, together with what was emitted. -/
lemma invariant {P : ConsensusCore → List ConsensusEffect → Prop} (hstart : P c [])
    (hmove : ∀ {d d' es es'}, P d es → Move input d es' d' → P d' (es ++ es'))
    (h : Moves input c effects c') : P c' effects := by
  induction h with
  | refl => exact hstart
  | snoc _ hlast ih => exact hmove ih hlast

end Moves

lemma Hears.congr (h : Hears input c sender message) (hroster : c'.roster = c.roster)
    (hlocal : c'.localId = c.localId) : Hears input c' sender message :=
  ⟨h.input_eq, hroster ▸ h.mem, hlocal ▸ h.ne⟩

lemma Hears.mem_peers (h : Hears input c sender message) : sender ∈ c.peers := by
  have hmem := h.mem
  simp only [ValidatedVoterRoster.cells, mem_toFinset] at hmem
  simp [peers, mem_filter, h.ne, hmem]

/-! ## Messages sent by a move -/

inductive Sends (input : ConsensusInput) (c c' : ConsensusCore) (target : CellIdentity) :
    RaftMessage → Prop
  | quiet {message : RaftMessage} : (ConsensusEffect.sendMessage target message).Quiet →
      Sends input c c' target message
  | requestVote : target ∈ c.peers → c'.currentTerm = c.currentTerm + 1 →
      c'.votedFor = some c.localId → Sends input c c' target
        (.requestVote (c.currentTerm + 1) c.localId c.lastLogIndex c.lastLogTerm)
  | grantVote {index term : ℕ} :
      Hears input c target (.requestVote c.currentTerm target index term) →
      c.logUpToDate index term = true → c.votedFor = none ∨ c.votedFor = some target →
      c'.currentTerm = c.currentTerm → c'.votedFor = some target →
      Sends input c c' target (.requestVoteResponse c.currentTerm c.localId true)
  | replicate {message : RaftMessage} {round : ℕ} : c' = c → c.role = .leader →
      target ∈ c.peers → round + 1 = c.nextQuorumRoundId →
      c.buildReplicationForPeer target round = .sendMessage target message →
      Sends input c c' target message
  | accept {prevLogIndex prevLogTerm leaderCommit round conflictIndex : ℕ}
      {entries : List RaftLogEntry} :
      Hears input c target (.appendEntries c.currentTerm target prevLogIndex prevLogTerm entries
        leaderCommit round) → c'.currentTerm = c.currentTerm →
      Sends input c c' target (.appendEntriesResponse c.currentTerm c.localId true c'.lastLogIndex
        none conflictIndex round)
  | installed {index total : ℕ} : c'.currentTerm = c.currentTerm → index ≤ c'.commitIndex →
      Sends input c c' target (.installSnapshotResponse c.currentTerm c.localId index total true)

lemma buildReplicationForPeer_eq (c : ConsensusCore) (peer : CellIdentity) (round : ℕ) :
    ∃ message, c.buildReplicationForPeer peer round = .sendMessage peer message ∧
      ((∃ prevLogIndex prevLogTerm entries leaderCommit, message = .appendEntries c.currentTerm
          c.localId prevLogIndex prevLogTerm entries leaderCommit round) ∨
        ∃ index term root sha total offset chunk done, message = .installSnapshotChunk
          c.currentTerm c.localId index term root sha total offset chunk done) := by
  unfold buildReplicationForPeer
  dsimp only
  split
  · split
    · exact ⟨_, rfl, .inr ⟨_, _, _, _, _, _, _, _, rfl⟩⟩
    · exact ⟨_, rfl, .inl ⟨_, _, _, _, rfl⟩⟩
  · exact ⟨_, rfl, .inl ⟨_, _, _, _, rfl⟩⟩

lemma replication_cases {peer target round}
    (h : c.buildReplicationForPeer peer round = .sendMessage target message) :
    (∃ prevLogIndex prevLogTerm entries leaderCommit, message = .appendEntries c.currentTerm
        c.localId prevLogIndex prevLogTerm entries leaderCommit round) ∨
      ∃ index term root sha total offset chunk done, message = .installSnapshotChunk
        c.currentTerm c.localId index term root sha total offset chunk done := by
  obtain ⟨message', heq, hcases⟩ := c.buildReplicationForPeer_eq peer round
  rw [heq] at h
  obtain ⟨-, rfl⟩ := sendMessage.inj h
  exact hcases

lemma truncations_spliceEntries (base commitIndex : ℕ) (logTail entries : List RaftLogEntry) :
    ∀ e ∈ (spliceEntries base commitIndex logTail entries).truncations,
      ∃ index, e = .truncateLogSuffixFrom index := by
  induction entries generalizing logTail with
  | nil => simp [spliceEntries]
  | cons entry rest ih =>
    unfold spliceEntries
    split
    · intro e he
      rcases mem_append.mp he with he | he
      · unfold spliceEntry at he
        dsimp only at he
        split at he
        · simp at he
        · split at he
          · split at he
            · exact ⟨_, mem_singleton.mp he⟩
            · simp at he
          · split at he <;> simp at he
      · exact ih _ e he
    · simp

lemma followLeaderCommit_eq (c : ConsensusCore) (leaderCommit : ℕ) :
    ∃ index, (c.followLeaderCommit leaderCommit).1 = { c with commitIndex := index } ∧
      c.commitIndex ≤ index ∧ (∀ e ∈ (c.followLeaderCommit leaderCommit).2, ∃ newlyCommitted,
        e = .advanceCommitIndex index c.currentTerm newlyCommitted) := by
  unfold followLeaderCommit
  split
  · next h =>
    refine ⟨_, rfl, h.2.le, fun e he => ⟨_, mem_singleton.mp he⟩⟩
  · exact ⟨c.commitIndex, rfl, le_refl _, by simp⟩

/-- What a merge emits: changes of the log, a commit, and the answer to the leader. -/
lemma reconcile_effects {leader entries leaderCommit round e}
    (h : e ∈ (c.reconcileAndCommitEntries leader entries leaderCommit round).2) :
    (∃ index, e = .truncateLogSuffixFrom index) ∨ (∃ l, e = .appendLogEntries l) ∨
      (∃ index newlyCommitted, e = .advanceCommitIndex index c.currentTerm newlyCommitted) ∨
      e = .sendMessage leader (.appendEntriesResponse c.currentTerm c.localId true
        (c.reconcileAndCommitEntries leader entries leaderCommit round).1.lastLogIndex none 0
        round) ∨
      e = .sendMessage leader (.appendEntriesResponse c.currentTerm c.localId false 0 none
        (c.commitIndex + 1) round) := by
  have htruncations := truncations_spliceEntries c.firstUncompactedIndex c.commitIndex c.logTail
    entries
  unfold reconcileAndCommitEntries at h ⊢
  dsimp only at h ⊢
  generalize spliceEntries c.firstUncompactedIndex c.commitIndex c.logTail entries = s at *
  split at h
  · next hintact =>
    obtain ⟨index, heq, -, hcommit⟩ := followLeaderCommit_eq { c with logTail := s.logTail }
      leaderCommit
    rw [if_pos hintact]
    simp only [heq, mem_append, mem_singleton] at h ⊢
    rcases h with ((htruncated | happend) | hadvance) | rfl
    · exact .inl (htruncations _ htruncated)
    · unfold appendEffects at happend
      split at happend
      · simp at happend
      · exact .inr (.inl ⟨_, mem_singleton.mp happend⟩)
    · obtain ⟨newlyCommitted, heq'⟩ := hcommit _ hadvance
      exact .inr (.inr (.inl ⟨index, newlyCommitted, heq'⟩))
    · exact .inr (.inr (.inr (.inl rfl)))
  · rcases mem_append.mp h with htruncated | hsent
    · exact .inl (htruncations _ htruncated)
    · exact .inr (.inr (.inr (.inr (mem_singleton.mp hsent))))

lemma reconcile_currentTerm (c : ConsensusCore) (leader : CellIdentity)
    (entries : List RaftLogEntry) (leaderCommit round : ℕ) :
    (c.reconcileAndCommitEntries leader entries leaderCommit round).1.currentTerm =
      c.currentTerm := by
  unfold reconcileAndCommitEntries
  dsimp only
  split
  · obtain ⟨index, heq, -⟩ := followLeaderCommit_eq
      { c with logTail := (spliceEntries c.firstUncompactedIndex c.commitIndex c.logTail
        entries).logTail } leaderCommit
    simp only [heq]
  · rfl

lemma Move.sends {target}
    (h : Move input c effects c') (hsent : .sendMessage target message ∈ effects) :
    Sends input c c' target message := by
  cases h with
  | quiet _ hquiet => exact .quiet (hquiet _ hsent)
  | campaign =>
    rcases mem_cons.mp hsent with heq | hsent
    · cases heq
    · obtain ⟨peer, hpeer, heq⟩ := mem_map.mp hsent
      cases heq
      exact .requestVote hpeer rfl rfl
  | @vote candidate _ _ hears hfree hlog =>
    have heq : .sendMessage target message = c.voteResponse candidate true := by simpa using hsent
    obtain ⟨rfl, rfl⟩ := sendMessage.inj heq
    exact .grantVote hears hlog hfree rfl rfl
  | replicate hrole hpeer hround =>
    have heq := mem_singleton.mp hsent
    obtain ⟨message', hbuild, -⟩ := buildReplicationForPeer_eq c _ _
    rw [hbuild] at heq
    obtain ⟨rfl, rfl⟩ := sendMessage.inj heq
    exact .replicate rfl hrole hpeer hround hbuild
  | reconcile hears =>
    rcases reconcile_effects hsent with ⟨_, heq⟩ | ⟨_, heq⟩ | ⟨_, _, heq⟩ | heq | heq <;>
      cases heq
    · exact .accept hears (reconcile_currentTerm ..)
    · exact .quiet rfl
  | covered hears =>
    obtain ⟨rfl, rfl⟩ := sendMessage.inj (mem_singleton.mp hsent)
    exact .accept hears rfl
  | sweep =>
    obtain ⟨round, -, hsent⟩ := mem_flatMap.mp hsent
    obtain ⟨readId, -, heq⟩ := mem_map.mp hsent
    cases heq
  | @install leader snapshot bytes _ _ hears hrole hcommit =>
    have heq : .sendMessage target message =
        c.snapshotResponse leader snapshot.includedIndex bytes.length true := by simpa using hsent
    obtain ⟨rfl, rfl⟩ := sendMessage.inj heq
    exact .installed rfl (Nat.le_max_right _ _)
  | alreadyInstalled hears hrole hle =>
    obtain ⟨rfl, rfl⟩ := sendMessage.inj (mem_singleton.mp hsent)
    exact .installed rfl hle
  | _ => simp [advanceCommit] at hsent

end ConsensusCore

end Nlos.Consensus
