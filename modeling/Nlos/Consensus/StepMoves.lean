import Nlos.Consensus.Moves

/-!
# Every step is a sequence of moves

The handlers are taken apart one by one; `moves_step` puts them together for the step function.
-/

namespace Nlos.Consensus

open Lib List

variable {term round offset : ℕ} {peer leader candidate : CellIdentity}
  {expected conflictTerm : Option ℕ}

namespace ConsensusCore

variable {input : ConsensusInput} {c c' : ConsensusCore}

lemma moves_sendAll (hrole : c.role = .leader)
    (hround : round + 1 = c.nextQuorumRoundId) (targets : List CellIdentity)
    (htargets : ∀ peer ∈ targets, peer ∈ c.peers) :
    Moves input c (targets.map fun peer => c.buildReplicationForPeer peer round) c := by
  induction targets with
  | nil => exact .refl
  | cons peer targets ih =>
    have hhead : Moves input c [c.buildReplicationForPeer peer round] c :=
      .single (.replicate hrole (htargets peer mem_cons_self) hround)
    exact hhead.trans (ih fun q hq => htargets q (mem_cons_of_mem _ hq))

/-- A round is opened by a leader, and a read waits in it only if it was just asked for. -/
lemma moves_startRound (hrole : c.role = .leader)
    (hread : ∀ r ∈ readId, ∃ expected, input = .requestLinearizableRead r expected) :
    Moves input c (c.startRound readId).2 (c.startRound readId).1 :=
  Moves.before (.single (.openRound hrole hread))
    (moves_sendAll (c := c.allocateQuorumRound readId) hrole rfl _ fun _ h => h)

lemma moves_startRoundFor (hrole : c.role = .leader) (hpeer : peer ∈ c.peers) :
    Moves input c (c.startRoundFor peer).2 (c.startRoundFor peer).1 :=
  Moves.before (.single (.openRound hrole (by simp)))
    (.single (.replicate (c := c.allocateQuorumRound none) hrole hpeer rfl))

lemma moves_stepDown (h : c.currentTerm < term) :
    Moves input c (c.stepDownToHigherTerm term).2 (c.stepDownToHigherTerm term).1 := by
  rw [show (c.stepDownToHigherTerm term).2 = _ ++ (_ ++ _) from append_assoc _ _ _]
  refine (Moves.single (.adopt h)).trans (.quiet rfl fun e he => ?_)
  simp only [mem_append, mem_map] at he
  rcases he with he | ⟨rid, -, rfl⟩
  · split at he
    · rw [mem_singleton.mp he]
      trivial
    · simp at he
  · trivial

/-- A higher term is adopted before anything else is done with a message. -/
lemma moves_observeTerm (term : ℕ) :
    Moves input c (c.observeTerm term).2 (c.observeTerm term).1 := by
  unfold observeTerm
  split
  · next h => exact moves_stepDown h
  · exact .refl

lemma le_observeTerm (term : ℕ) : term ≤ (c.observeTerm term).1.currentTerm := by
  unfold observeTerm
  split
  · exact le_refl _
  · next h => exact Nat.le_of_not_lt h

@[simp] lemma observeTerm_roster (term : ℕ) :
    (c.observeTerm term).1.roster = c.roster := by
  unfold observeTerm; split <;> rfl

@[simp] lemma observeTerm_localId (term : ℕ) :
    (c.observeTerm term).1.localId = c.localId := by
  unfold observeTerm; split <;> rfl

lemma moves_startPreVote : Moves input c c.startPreVote.2 c.startPreVote.1 := by
  refine Moves.before (.single (.retire (.inr rfl))) (.quiet rfl fun e he => ?_)
  obtain ⟨peer, -, rfl⟩ := mem_map.mp he
  trivial

lemma moves_onTick : Moves input c c.onTick.2 c.onTick.1 := by
  unfold onTick
  split
  · exact .refl
  · dsimp only
    split
    · next hrole =>
      split
      · exact .of_silent (moves_startRound (by exact hrole) (by simp)) rfl
      · exact .silent rfl
    · split
      · exact .of_silent moves_startPreVote rfl
      · exact .silent rfl

lemma role_of_checkLeaderGate (h : c.checkLeaderGate expected = .ok ()) : c.role = .leader := by
  unfold checkLeaderGate at h
  by_contra hrole
  cases expected with
  | some =>
    dsimp only at h
    split at h
    · simp at h
    · simp [hrole] at h
  | none =>
    simp only [ne_eq, hrole, not_false_eq_true, ↓reduceIte] at h
    split at h
    · split at h <;> simp at h
    · simp at h

lemma moves_reject {reason : ProposalRejectReason} :
    Moves input c [.proposalRejected readId reason] c :=
  .quiet rfl fun e he => by rw [mem_singleton.mp he]; trivial

lemma moves_onPropose (hinput : input = .propose proposal expected) :
    Moves input c (c.onPropose proposal expected).2 (c.onPropose proposal expected).1 := by
  unfold onPropose
  split
  · exact moves_reject
  · next hgate =>
    have hrole := role_of_checkLeaderGate hgate
    dsimp only
    split
    · next hlen => exact .single (.proposeAlone hinput hrole hlen rfl)
    · next hlen =>
      refine (Moves.single (.propose hinput hrole hlen)).trans ?_
      exact .of_silent (moves_startRound (by exact hrole) (by simp)) rfl

lemma moves_onRequestLinearizableRead
    (hinput : input = .requestLinearizableRead readId expected) :
    Moves input c (c.onRequestLinearizableRead readId expected).2
      (c.onRequestLinearizableRead readId expected).1 := by
  unfold onRequestLinearizableRead
  split
  · exact moves_reject
  · next hgate =>
    have hrole := role_of_checkLeaderGate hgate
    split
    · next hlen => exact .single (.readAlone hlen)
    · refine .of_silent (moves_startRound (by exact hrole) ?_) rfl
      intro r hr
      exact ⟨expected, by simpa [Option.mem_some_iff.mp hr] using hinput⟩

variable {lastIndex lastTerm conflictIndex index : ℕ}

lemma moves_onRequestPreVote :
    Moves input c (c.onRequestPreVote term candidate lastIndex lastTerm) c :=
  .quiet rfl fun e he => by rw [mem_singleton.mp he]; trivial

lemma moves_onRequestPreVoteResponse :
    Moves input c (c.onRequestPreVoteResponse responderTerm prospectiveTerm voter granted).2
      (c.onRequestPreVoteResponse responderTerm prospectiveTerm voter granted).1 := by
  unfold onRequestPreVoteResponse
  split
  · next h => exact moves_stepDown h
  · split
    · exact .refl
    · next hguard =>
      have hrole : c.role = .preCandidate := by
        by_contra h
        exact hguard (.inl h)
      dsimp only
      split
      · exact .to_silent (.single (.campaign hrole)) rfl
      · exact .silent rfl

lemma moves_refuseVote : Moves input c [c.voteResponse candidate false] c :=
  .quiet rfl fun e he => by rw [mem_singleton.mp he]; rfl

/-- A vote is stored before it is sent. -/
lemma moves_castVote
    (hears : Hears input c candidate (.requestVote c.currentTerm candidate lastIndex lastTerm)) :
    Moves input c (c.castVote candidate lastIndex lastTerm).2
      (c.castVote candidate lastIndex lastTerm).1 := by
  unfold castVote
  split
  · next h => exact .to_silent (.single (.vote hears h.1 h.2)) rfl
  · exact moves_refuseVote

lemma moves_onRequestVote
    (hears : Hears input c candidate (.requestVote term candidate lastIndex lastTerm)) :
    Moves input c (c.onRequestVote term candidate lastIndex lastTerm).2
      (c.onRequestVote term candidate lastIndex lastTerm).1 := by
  unfold onRequestVote
  dsimp only
  split
  · exact (moves_observeTerm term).trans moves_refuseVote
  · next h =>
    refine (moves_observeTerm term).trans (moves_castVote ?_)
    rw [← Nat.le_antisymm (le_observeTerm term) (Nat.le_of_not_lt h)]
    exact hears.congr (by simp) (by simp)

/-- A candidate with a quorum of votes becomes leader and sends its first round. -/
lemma moves_becomeLeader (hrole : c.role = .candidate)
    (hquorum : c.roster.quorumSize ≤ c.votesGrantedDomains.card) :
    Moves input c c.becomeLeader.2 c.becomeLeader.1 := by
  refine Moves.before (.single (.lead hrole hquorum)) ?_
  exact .of_silent (moves_startRound (by rfl) (by simp)) rfl

lemma moves_onRequestVoteResponse
    (hears : Hears input c voter (.requestVoteResponse term voter granted)) :
    Moves input c (c.onRequestVoteResponse term voter granted).2
      (c.onRequestVoteResponse term voter granted).1 := by
  unfold onRequestVoteResponse
  split
  · next h => exact moves_stepDown h
  · split
    · exact .refl
    · next hguard =>
      obtain ⟨hrole, rfl⟩ : c.role = .candidate ∧ term = c.currentTerm := by
        simpa [not_or] using hguard
      have hcount : Moves input c [] { c with
          votesGrantedDomains := c.grantedDomains voter granted c.votesGrantedDomains } := by
        unfold grantedDomains
        split
        · next domain hdomain =>
          cases granted with
          | true => exact .single (.countVote hrole hears hdomain)
          | false => exact .refl
        · exact .refl
      dsimp only
      split
      · next hquorum => exact hcount.before (moves_becomeLeader hrole hquorum)
      · exact hcount

/-! ## Replication -/

lemma moves_refuseAppend :
    Moves input c [c.appendResponse leader false 0 conflictTerm conflictIndex round] c :=
  .quiet rfl fun e he => by rw [mem_singleton.mp he]; rfl

/-- A follower splices the entries in where the previous one matches. -/
lemma moves_checkAndReconcile
    (hears : Hears input c leader (.appendEntries c.currentTerm leader prevLogIndex prevLogTerm
      entries leaderCommit round)) (hrole : c.role = .follower) : Moves input c
      (c.checkAndReconcile leader prevLogIndex prevLogTerm entries leaderCommit round).2
      (c.checkAndReconcile leader prevLogIndex prevLogTerm entries leaderCommit round).1 := by
  unfold checkAndReconcile
  split
  · next hbelow =>
    split
    · next hnone =>
      refine .single (.covered hears hrole hbelow fun e he => ?_)
      simpa using filter_eq_nil_iff.mp hnone e he
    · next first rest hsome =>
      split
      · exact moves_refuseAppend
      · next hfirst =>
        exact .single (.reconcile hears hrole (.aboveSnapshot hbelow hsome (not_not.mp hfirst)))
  · next hbelow =>
    split
    · exact moves_refuseAppend
    · next localPrevTerm hterm =>
      split
      · exact moves_refuseAppend
      · next hmatch =>
        exact .single (.reconcile hears hrole
          (.matching (Nat.le_of_not_lt hbelow) (not_not.mp hmatch ▸ hterm)))

lemma moves_followLeader (leader : CellIdentity) : Moves input c [] (c.followLeader leader) :=
  .to_silent (.single (.retire (.inl rfl))) rfl

lemma moves_onAppendEntries
    (hears : Hears input c leader (.appendEntries term leader prevLogIndex prevLogTerm entries
      leaderCommit round)) : Moves input c
      (c.onAppendEntries term leader prevLogIndex prevLogTerm entries leaderCommit round).2
      (c.onAppendEntries term leader prevLogIndex prevLogTerm entries leaderCommit round).1 := by
  unfold onAppendEntries
  dsimp only
  split
  · exact (moves_observeTerm term).trans moves_refuseAppend
  · next h =>
    refine (moves_observeTerm term).trans ((moves_followLeader leader).before ?_)
    refine moves_checkAndReconcile ?_ rfl
    have hterm := Nat.le_antisymm (le_observeTerm term) (Nat.le_of_not_lt h)
    change Hears input _ leader (.appendEntries (c.observeTerm term).1.currentTerm _ _ _ _ _ _)
    rw [← hterm]
    exact hears.congr (by simp [followLeader]) (by simp [followLeader])

lemma foldl_lastHit (hit : ℕ → Bool) (indices : List ℕ) (start : ℕ) :
    let best := indices.foldl (fun best i => if hit i then i else best) start
    best = start ∨ ∃ i ∈ indices, hit i = true ∧ best = i := by
  induction indices generalizing start with
  | nil => exact .inl rfl
  | cons i indices ih =>
    rw [foldl_cons]
    rcases ih (if hit i then i else start) with heq | ⟨j, hj, hhit, heq⟩
    · dsimp only
      rw [heq]
      split
      · next hi => exact .inr ⟨i, mem_cons_self, hi, rfl⟩
      · exact .inl rfl
    · exact .inr ⟨j, mem_cons_of_mem _ hj, hhit, heq⟩

/-- The best index is the last one that a quorum holds with an entry of the current term. -/
lemma committable_bestCommit (h : c.commitIndex < c.bestCommit) :
    c.bestCommit ≤ c.lastLogIndex ∧ c.committable c.bestCommit = true := by
  rcases foldl_lastHit c.committable
    (List.range' (c.commitIndex + 1) (c.lastLogIndex - c.commitIndex)) c.commitIndex with
    heq | ⟨i, hi, hhit, heq⟩
  · exact absurd heq (Nat.ne_of_gt h)
  · change c.bestCommit = i at heq
    have hle := mem_range'_1.mp hi
    rw [heq]
    exact ⟨by omega, hhit⟩

lemma moves_tryAdvanceLeaderCommit (hrole : c.role = .leader) :
    Moves input c c.tryAdvanceLeaderCommit.2 c.tryAdvanceLeaderCommit.1 := by
  unfold tryAdvanceLeaderCommit
  split
  · next h =>
    obtain ⟨hlast, hok⟩ := committable_bestCommit h
    exact .single (.commit hrole h hlast hok)
  · exact .refl

@[simp] lemma tryAdvanceLeaderCommit_fst :
    ∃ index, c.tryAdvanceLeaderCommit.1 = { c with commitIndex := index } := by
  unfold tryAdvanceLeaderCommit
  split
  · exact ⟨_, rfl⟩
  · exact ⟨_, rfl⟩

lemma moves_pipelineTail (hrole : c.role = .leader) (hpeer : peer ∈ c.peers) (updated : ℕ) :
    Moves input c (c.pipelineTail peer updated).2 (c.pipelineTail peer updated).1 := by
  unfold pipelineTail
  split
  · exact moves_startRoundFor hrole hpeer
  · exact .refl

/-- A success may advance the commit index and confirm the reads of its round. -/
lemma moves_onAppendSuccess (hrole : c.role = .leader) {matchIndex}
    (hears : Hears input c peer (.appendEntriesResponse c.currentTerm peer true matchIndex
      conflictTerm conflictIndex round)) : Moves input c (c.onAppendSuccess peer matchIndex round).2
      (c.onAppendSuccess peer matchIndex round).1 := by
  unfold onAppendSuccess
  dsimp only
  set updated := min (max (c.matchIndex[peer]?.getD 0) matchIndex) c.lastLogIndex
  have hmatched : Moves input c [] (c.recordMatch peer updated) :=
    .single (.matched hrole (.appended hears))
  have hadvance := hmatched.before (moves_tryAdvanceLeaderCommit (by exact hrole))
  obtain ⟨index, hfst⟩ := (c.recordMatch peer updated).tryAdvanceLeaderCommit_fst
  rw [hfst] at hadvance ⊢
  set advanced : ConsensusCore := { c.recordMatch peer updated with commitIndex := index }
  have hack : Moves input advanced [] (advanced.acknowledgeRound peer round) :=
    .single (.acknowledge hrole (hears.congr rfl rfl))
  have hsame : (advanced.acknowledgeRound peer round).role = .leader ∧
      peer ∈ (advanced.acknowledgeRound peer round).peers := by
    unfold acknowledgeRound
    split
    · split <;> exact ⟨hrole, hears.mem_peers⟩
    · exact ⟨hrole, hears.mem_peers⟩
  refine (hadvance.trans (hack.before (.single (.sweep hsame.1)))).trans ?_
  exact moves_pipelineTail (by exact hsame.1) (by exact hsame.2) updated

lemma moves_onAppendRefused (hrole : c.role = .leader)
    (hpeer : peer ∈ c.peers) (conflictTerm : Option ℕ) (conflictIndex : ℕ) :
    Moves input c (c.onAppendRefused peer conflictTerm conflictIndex).2
      (c.onAppendRefused peer conflictTerm conflictIndex).1 := by
  unfold onAppendRefused
  dsimp only
  refine Moves.before (.single (.backUp hrole ?_))
    (.of_silent (moves_startRoundFor (by exact hrole) (by exact hpeer)) rfl)
  omega

lemma moves_onAppendEntriesResponse {matchIndex success}
    (hears : Hears input c peer (.appendEntriesResponse term peer success matchIndex conflictTerm
      conflictIndex round)) : Moves input c
      (c.onAppendEntriesResponse term peer success matchIndex conflictTerm conflictIndex round).2
      (c.onAppendEntriesResponse term peer success matchIndex conflictTerm conflictIndex
        round).1 := by
  unfold onAppendEntriesResponse
  split
  · next h => exact moves_stepDown h
  · split
    · exact .refl
    · next hguard =>
      obtain ⟨hrole, rfl⟩ : c.role = .leader ∧ term = c.currentTerm := by
        simpa [not_or] using hguard
      split
      · next hsuccess => exact moves_onAppendSuccess hrole (hsuccess ▸ hears)
      · exact moves_onAppendRefused hrole hears.mem_peers _ _

/-! ## Snapshot transfer -/

lemma moves_refuseSnapshot (hstate : c'.protocol = c.protocol) :
    Moves input c [c.snapshotResponse leader index offset false] c' :=
  .quiet hstate fun e he => by rw [mem_singleton.mp he]; rfl

/-- The transfer a chunk message belongs to, apart from the bytes received so far. -/
lemma stagingFor_eq (h : c.stagingFor fresh offset = some staging) :
    staging = { fresh with buffer := staging.buffer } := by
  unfold stagingFor at h
  split at h
  · next s hs =>
    split at h
    · next hsame =>
      obtain rfl := Option.some.inj h
      rw [← hsame]
    · split at h
      · obtain rfl := Option.some.inj h
        rfl
      · simp at h
  · split at h
    · obtain rfl := Option.some.inj h
      rfl
    · simp at h

/-- A snapshot is installed with its last chunk. -/
lemma moves_stageChunk
    (hears : Hears input c leader (.installSnapshotChunk c.currentTerm leader index term root sha
      total offset chunk done)) (hrole : c.role = .follower) (hcommit : c.commitIndex < index) :
    Moves input c
      (c.stageChunk ⟨c.currentTerm, leader, index, term, root, sha, total, buffer⟩ offset chunk
        done).2
      (c.stageChunk ⟨c.currentTerm, leader, index, term, root, sha, total, buffer⟩ offset chunk
        done).1 := by
  unfold stageChunk
  dsimp only
  split
  · exact moves_refuseSnapshot rfl
  · split
    · exact moves_refuseSnapshot rfl
    · split
      · exact moves_refuseSnapshot rfl
      · next hdone =>
        split
        · exact moves_refuseSnapshot rfl
        · next htotal =>
          obtain rfl : done = true := by simpa using hdone
          obtain rfl : _ = total := not_not.mp htotal
          unfold completeSnapshot
          dsimp only
          split
          · exact moves_refuseSnapshot rfl
          · next hsha =>
            obtain rfl : _ = sha := not_not.mp hsha
            exact .single (@Move.install input c leader ⟨index, term, root⟩ _ _ _ hears hrole
              hcommit)

lemma moves_onInstallSnapshotChunk
    (hears : Hears input c leader (.installSnapshotChunk leaderTerm leader index term root sha total
      offset chunk done)) : Moves input c
      (c.onInstallSnapshotChunk leaderTerm leader index term root sha total offset chunk done).2
      (c.onInstallSnapshotChunk leaderTerm leader index term root sha total offset chunk
        done).1 := by
  unfold onInstallSnapshotChunk
  dsimp only
  split
  · exact (moves_observeTerm leaderTerm).trans (moves_refuseSnapshot rfl)
  · next h =>
    have hterm := Nat.le_antisymm (le_observeTerm leaderTerm) (Nat.le_of_not_lt h)
    set d := (c.observeTerm leaderTerm).1.followLeader leader with hd
    have hdterm : d.currentTerm = leaderTerm := hterm.symm
    have hfollow : Moves input c (c.observeTerm leaderTerm).2 d := by
      simpa using (moves_observeTerm leaderTerm).trans (moves_followLeader leader)
    have hears' : Hears input d leader (.installSnapshotChunk d.currentTerm leader index term
        root sha total offset chunk done) := by
      rw [hdterm]
      exact hears.congr (by simp [hd, followLeader]) (by simp [hd, followLeader])
    split
    · next hle => exact hfollow.trans (.single (.alreadyInstalled hears' rfl hle))
    · next hlt =>
      split
      · exact hfollow.trans (moves_refuseSnapshot rfl)
      · next staging hstaging =>
        refine hfollow.trans ?_
        rw [stagingFor_eq hstaging, ← hdterm]
        exact moves_stageChunk hears' rfl (Nat.lt_of_not_le hlt)

lemma moves_onSnapshotInstalled (hrole : c.role = .leader)
    (hmeta : c.snapshotMeta = some snapshot)
    (hears : Hears input c peer (.installSnapshotResponse c.currentTerm peer
      snapshot.includedIndex offset true)) :
    Moves input c (c.onSnapshotInstalled peer snapshot.includedIndex).2
      (c.onSnapshotInstalled peer snapshot.includedIndex).1 := by
  unfold onSnapshotInstalled
  dsimp only
  set updated := max (c.matchIndex[peer]?.getD 0) snapshot.includedIndex
  have hmatched : Moves input c [] (c.recordMatch peer updated) :=
    .single (.matched hrole (.installed hears hmeta))
  have hadvance := hmatched.before (moves_tryAdvanceLeaderCommit (by exact hrole))
  obtain ⟨index, hfst⟩ := (c.recordMatch peer updated).tryAdvanceLeaderCommit_fst
  rw [hfst] at hadvance ⊢
  exact hadvance.trans (moves_pipelineTail (by exact hrole) (by exact hears.mem_peers) updated)

lemma moves_resumeSnapshotAt (hrole : c.role = .leader) (hpeer : peer ∈ c.peers) (offset : ℕ) :
    Moves input c (c.resumeSnapshotAt peer offset).2 (c.resumeSnapshotAt peer offset).1 :=
  .of_silent (moves_startRoundFor (by exact hrole) (by exact hpeer)) rfl

lemma moves_onInstallSnapshotResponse
    (hears : Hears input c peer (.installSnapshotResponse term peer index offset installed)) :
    Moves input c (c.onInstallSnapshotResponse term peer index offset installed).2
      (c.onInstallSnapshotResponse term peer index offset installed).1 := by
  unfold onInstallSnapshotResponse
  split
  · next h => exact moves_stepDown h
  · split
    · exact .refl
    · next hguard =>
      obtain ⟨hrole, rfl⟩ : c.role = .leader ∧ term = c.currentTerm := by
        simpa [not_or] using hguard
      split
      · exact .refl
      · next hindex =>
        obtain ⟨snapshot, hmeta, rfl⟩ := Option.map_eq_some_iff.mp (not_not.mp hindex)
        split
        · next hinstalled =>
          exact moves_onSnapshotInstalled hrole hmeta (hinstalled ▸ hears)
        · split
          · exact moves_resumeSnapshotAt hrole hears.mem_peers 0
          · split
            · exact .refl
            · exact moves_resumeSnapshotAt hrole hears.mem_peers offset

/-- One case for each message, with the term observed and the sender checked. -/
lemma moves_dispatchMessage
    (hears : Hears input c sender message) (hsender : message.claimedSender = sender) :
    Moves input c (c.dispatchMessage message).2 (c.dispatchMessage message).1 := by
  subst hsender
  cases message with
  | requestPreVote => exact moves_onRequestPreVote
  | requestPreVoteResponse => exact moves_onRequestPreVoteResponse
  | requestVote => exact moves_onRequestVote hears
  | requestVoteResponse => exact moves_onRequestVoteResponse hears
  | appendEntries => exact moves_onAppendEntries hears
  | appendEntriesResponse => exact moves_onAppendEntriesResponse hears
  | installSnapshotChunk => exact moves_onInstallSnapshotChunk hears
  | installSnapshotResponse => exact moves_onInstallSnapshotResponse hears

/-- A step is a chain of the moves above, whatever its input. -/
lemma moves_step (c : ConsensusCore) (input : ConsensusInput) :
    Moves input c (c.step input).2 (c.step input).1 := by
  cases input with
  | tick => exact moves_onTick
  | propose => exact moves_onPropose rfl
  | requestLinearizableRead => exact moves_onRequestLinearizableRead rfl
  | receiveMessage =>
    unfold step onMessage
    dsimp only
    split
    · exact .refl
    · next hsender =>
      split
      · exact .refl
      · next hclaimed =>
        obtain ⟨hmem, hne⟩ := not_or.mp hsender
        refine moves_dispatchMessage ⟨rfl, ?_, hne⟩ (not_not.mp hclaimed)
        exact ValidatedVoterRoster.contains_iff.mp (by simpa using hmem)

end ConsensusCore

end Nlos.Consensus
