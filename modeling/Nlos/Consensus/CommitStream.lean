import Nlos.Consensus.CommitShape
import Nlos.Consensus.WireCodec

/-!
# The stream of committed entries

A step moves the commit index at most once, so that its commit effect reports exactly the entries
between the commit index before the step and the one after it. Committed entries stay in the log
until a snapshot covers them; a crash alone can change one, where the store reloads it without the
flow information and the scope of its endpoint.
-/

namespace Nlos.Consensus

open Lib ConsensusCore List ConsensusEffect

namespace ConsensusCore

variable {input : ConsensusInput} {c c' : ConsensusCore} {effects : List ConsensusEffect}

def commitCount (effects : List ConsensusEffect) : ℕ :=
  effects.countP ConsensusEffect.movesCommit

@[simp] lemma commitCount_nil : commitCount [] = 0 := rfl

@[simp] lemma commitCount_append (es es' : List ConsensusEffect) :
    commitCount (es ++ es') = commitCount es + commitCount es' := countP_append

@[simp] lemma commitCount_cons (e : ConsensusEffect) (es : List ConsensusEffect) :
    commitCount (e :: es) = commitCount es + if e.movesCommit then 1 else 0 := countP_cons

lemma commitCount_eq_zero (h : ∀ e ∈ effects, e.movesCommit = false) :
    commitCount effects = 0 := by
  rw [commitCount, countP_eq_zero]
  simpa using h

@[simp] lemma commitCount_sendToPeers (c : ConsensusCore) (message : RaftMessage) :
    commitCount (c.sendToPeers message) = 0 :=
  commitCount_eq_zero fun e he => movesCommit_of_not_stored (isStored_sendToPeers _ _ e he)

@[simp] lemma commitCount_startRound (c : ConsensusCore) (readId : Option ℕ) :
    commitCount (c.startRound readId).2 = 0 := by
  refine commitCount_eq_zero fun e he => ?_
  obtain ⟨peer, -, rfl⟩ := mem_map.mp he
  exact movesCommit_of_not_stored (isStored_buildReplicationForPeer _ _ _)

@[simp] lemma commitCount_startRoundFor (c : ConsensusCore) (peer : CellIdentity) :
    commitCount (c.startRoundFor peer).2 = 0 := by
  refine commitCount_eq_zero fun e he => ?_
  rw [mem_singleton.mp he]
  exact movesCommit_of_not_stored (isStored_buildReplicationForPeer _ _ _)

@[simp] lemma commitCount_sweep (c : ConsensusCore) :
    commitCount c.sweepConfirmedQuorumRounds.2 = 0 :=
  commitCount_eq_zero fun e he => movesCommit_of_not_stored (isStored_sweep _ e he)

@[simp] lemma commitCount_stepDown (c : ConsensusCore) (term : ℕ) :
    commitCount (c.stepDownToHigherTerm term).2 = 0 := by
  refine commitCount_eq_zero fun e he => ?_
  simp only [stepDownToHigherTerm, mem_append, mem_map, mem_ite_nil_right, mem_singleton] at he
  rcases he with (rfl | ⟨-, rfl⟩) | ⟨rid, -, rfl⟩ <;> rfl

@[simp] lemma commitCount_observeTerm (c : ConsensusCore) (term : ℕ) :
    commitCount (c.observeTerm term).2 = 0 := by
  unfold observeTerm
  split <;> simp

@[simp] lemma commitCount_pipelineTail (c : ConsensusCore) (peer : CellIdentity) (index : ℕ) :
    commitCount (c.pipelineTail peer index).2 = 0 := by
  unfold pipelineTail
  split <;> simp

lemma commitCount_tryAdvance (c : ConsensusCore) :
    commitCount c.tryAdvanceLeaderCommit.2 ≤ 1 := by
  unfold tryAdvanceLeaderCommit
  split <;> simp [advanceCommit]

lemma commitCount_reconcile (c : ConsensusCore) (leader : CellIdentity)
    (entries : List RaftLogEntry) (leaderCommit round : ℕ) :
    commitCount (c.reconcileAndCommitEntries leader entries leaderCommit round).2 ≤ 1 := by
  unfold reconcileAndCommitEntries
  dsimp only
  generalize hs : spliceEntries c.firstUncompactedIndex c.commitIndex c.logTail entries = s
  obtain ⟨htruncated, happended⟩ := movesCommit_merge hs
  split
  · simp only [commitCount_append, commitCount_eq_zero htruncated, commitCount_eq_zero happended]
    unfold followLeaderCommit
    split <;> simp [advanceCommit, appendResponse]
  · simp [commitCount_eq_zero htruncated, appendResponse]

lemma commitCount_checkAndReconcile (c : ConsensusCore) (leader : CellIdentity)
    (prevLogIndex prevLogTerm : ℕ) (entries : List RaftLogEntry) (leaderCommit round : ℕ) :
    commitCount (c.checkAndReconcile leader prevLogIndex prevLogTerm entries leaderCommit
      round).2 ≤ 1 := by
  unfold checkAndReconcile
  split
  · split
    · simp [appendResponse]
    · split
      · simp [appendResponse]
      · exact commitCount_reconcile _ _ _ _ _
  · split
    · simp [appendResponse]
    · split
      · simp [appendResponse]
      · exact commitCount_reconcile _ _ _ _ _

lemma commitCount_stageChunk (c : ConsensusCore) (staging : InboundSnapshotStaging) (offset : ℕ)
    (chunk : List UInt8) (done : Bool) :
    commitCount (c.stageChunk staging offset chunk done).2 ≤ 1 := by
  unfold stageChunk
  dsimp only
  split
  · simp [snapshotResponse]
  · split
    · simp [resetAndNack, snapshotResponse]
    · split
      · simp [snapshotResponse]
      · split
        · simp [resetAndNack, snapshotResponse]
        · unfold completeSnapshot
          dsimp only
          split <;> simp [resetAndNack, snapshotResponse]

lemma commitCount_dispatchMessage (c : ConsensusCore) (message : RaftMessage) :
    commitCount (c.dispatchMessage message).2 ≤ 1 := by
  cases message with
  | requestPreVote => simp [dispatchMessage, onRequestPreVote]
  | requestPreVoteResponse =>
    simp only [dispatchMessage, onRequestPreVoteResponse]
    split
    · simp
    · split
      · simp
      · split <;> simp [startRealElection]
  | requestVote =>
    simp only [dispatchMessage, onRequestVote]
    split
    · simp [voteResponse]
    · simp only [commitCount_append, commitCount_observeTerm, castVote]
      split <;> simp [voteResponse]
  | requestVoteResponse =>
    simp only [dispatchMessage, onRequestVoteResponse]
    split
    · simp
    · split
      · simp
      · split <;> simp [becomeLeader]
  | appendEntries =>
    simp only [dispatchMessage, onAppendEntries]
    split
    · simp [appendResponse]
    · simpa using commitCount_checkAndReconcile _ _ _ _ _ _ _
  | appendEntriesResponse =>
    simp only [dispatchMessage, onAppendEntriesResponse]
    split
    · simp
    · split
      · simp
      · split
        · simpa [onAppendSuccess] using commitCount_tryAdvance _
        · simp [onAppendRefused]
  | installSnapshotChunk =>
    simp only [dispatchMessage, onInstallSnapshotChunk]
    split
    · simp [snapshotResponse]
    · split
      · simp [snapshotResponse]
      · split
        · simp [resetAndNack, snapshotResponse]
        · simpa using commitCount_stageChunk _ _ _ _ _
  | installSnapshotResponse =>
    simp only [dispatchMessage, onInstallSnapshotResponse]
    split
    · simp
    · split
      · simp
      · split
        · simp
        · split
          · simpa [onSnapshotInstalled] using commitCount_tryAdvance _
          · split
            · simp [resumeSnapshotAt]
            · split <;> simp [resumeSnapshotAt]

/-- A step announces at most one advance of the commit index. -/
lemma commitCount_step (c : ConsensusCore) (input : ConsensusInput) :
    commitCount (c.step input).2 ≤ 1 := by
  cases input with
  | tick =>
    simp only [step, onTick]
    split
    · simp
    · split
      · split <;> simp
      · split <;> simp [startPreVote]
  | propose =>
    simp only [step, onPropose]
    split
    · simp
    · split <;> simp
  | requestLinearizableRead =>
    simp only [step, onRequestLinearizableRead]
    split
    · simp
    · split <;> simp
  | receiveMessage =>
    simp only [step, onMessage]
    split
    · simp
    · split
      · simp
      · exact commitCount_dispatchMessage _ _

/-! ## Runs of a cluster -/

/-- What the moves of one step leave in place, and what they report. -/
lemma Moves.commitShape (h : NodeOk node)
    (hlocal : node.core.localId ∈ node.core.roster.cells)
    (hwire : ∀ sender message, input = .receiveMessage sender message → message.WireOk)
    (hmoves : Moves input node.core effects c') :
    NodeOk (node.emit effects c') ∧ Grows node.core c' ∧ CommitShape node.core c' effects := by
  have hall : (NodeOk (node.emit effects c') ∧ c'.localId ∈ c'.roster.cells) ∧
      Grows node.core c' ∧ CommitShape node.core c' effects := by
    refine hmoves.invariant (P := fun d es => (NodeOk (node.emit es d) ∧
      d.localId ∈ d.roster.cells) ∧ Grows node.core d ∧ CommitShape node.core d es) ?_ ?_
    · exact ⟨⟨h, hlocal⟩, .refl _, commitShape_of_idle (by simp) rfl rfl⟩
    · rintro d d' es es' ⟨⟨hd, hmem⟩, hgrows, hshape⟩ hmove
      obtain ⟨hid, hroster, -⟩ := hmove.identity
      have hstep := hmove.grows hd.log
      refine ⟨⟨?_, hid ▸ hroster ▸ hmem⟩, hgrows.trans hstep, ?_⟩
      · rw [← Node.emit_emit d]
        exact hd.move hmem hwire hmove
      · exact hshape.append (hmove.commitShape hd) h.log.snapshot_le hstep
  exact ⟨hall.1.1, hall.2⟩

end ConsensusCore

/-- Every committed entry `e` of `p` is in `q` as `form e`, or covered by the snapshot of `q`. -/
def KeepsCommitted (form : RaftLogEntry → RaftLogEntry) (p q : ConsensusCore) : Prop :=
  ∀ e ∈ p.logTail, e.index ≤ p.commitIndex →
    form e ∈ q.logTail ∨ ∃ m, q.snapshotMeta = some m ∧ e.index ≤ m.includedIndex

/-- The step of a replica from `p` to `q` with the given effects takes neither its term nor its
commit index back and reports what it commits. -/
structure CommitStreamExact (p q : ConsensusCore) (effects : List ConsensusEffect) : Prop where
  currentTerm_le : p.currentTerm ≤ q.currentTerm
  commitIndex_le : p.commitIndex ≤ q.commitIndex
  once : (effects.filter ConsensusEffect.movesCommit).length ≤ 1
  newlyCommitted : ∀ index term entries, .advanceCommitIndex index term entries ∈ effects →
    index = q.commitIndex ∧ entries = q.collectRange (p.commitIndex + 1) q.commitIndex ∧
      entries.map RaftLogEntry.index =
        List.range' (p.commitIndex + 1) (q.commitIndex - p.commitIndex)

lemma ConsensusCore.Grows.keepsCommitted (h : Grows p q) (hp : LogOk p) :
    KeepsCommitted id p q := by
  intro e he hle
  refine (h.kept e he hle).imp_right fun hcovered => ?_
  have hpos := hp.snapshot_lt_index he
  unfold snapshotIndex at hcovered
  cases hmeta : q.snapshotMeta with
  | none =>
    simp only [hmeta, Option.map_none, Option.getD_none] at hcovered
    omega
  | some m => exact ⟨m, rfl, by simpa [hmeta] using hcovered⟩

lemma commitStreamExact_of_grows
    (hp : LogOk p) (hq : LogOk q) (hgrows : Grows p q) (hshape : CommitShape p q effects)
    (hcount : commitCount effects ≤ 1) : CommitStreamExact p q effects where
  currentTerm_le := hgrows.term
  commitIndex_le := hgrows.commit
  once := by rwa [← countP_eq_length_filter]
  newlyCommitted index term entries hmem := by
    have hfilter : .advanceCommitIndex index term entries ∈
        effects.filter movesCommit := mem_filter.mpr ⟨hmem, rfl⟩
    have hlength : (effects.filter movesCommit).length ≤ 1 := by
      rwa [← countP_eq_length_filter]
    -- it is the only effect that moves the commit index
    have hone : effects.filter movesCommit =
        [.advanceCommitIndex index term entries] := by
      generalize effects.filter movesCommit = l at *
      match l with
      | [] => simp at hfilter
      | [e] => rw [mem_singleton.mp hfilter]
      | _ :: _ :: _ => simp at hlength
    obtain ⟨hindex, hboundary, hnum, hlen, hin⟩ := hshape.advance _ _ _ hone
    have hsame : q.snapshotIndex = p.snapshotIndex := by simp only [snapshotIndex, hboundary]
    have hsnap := hp.snapshot_le
    have hfirst : q.snapshotIndex < p.commitIndex + 1 := by omega
    obtain ⟨hnum', hlen'⟩ := hq.numbered_collectRange hfirst (by omega) hq.commit_le
    have hrange : entries.map RaftLogEntry.index =
        List.range' (p.commitIndex + 1) (q.commitIndex - p.commitIndex) := by
      rw [show q.commitIndex - p.commitIndex = entries.length by omega]
      exact hnum
    refine ⟨hindex.symm, hq.numbered.eq_of_map_eq hin ?_ ?_, hrange⟩
    · exact fun e he => mem_of_mem_collectRange he
    · rw [hrange, show q.commitIndex - p.commitIndex =
        (q.collectRange (p.commitIndex + 1) q.commitIndex).length by omega]
      exact hnum'.symm

def ClusterConfig.Output.effectsOf (output : ClusterConfig.Output) (n : CellIdentity) :
    List ConsensusEffect := if n = output.node then output.effects else []

/-- Storing loses nothing of an entry whose endpoint hint has no flow information and scope. -/
lemma RaftLogEntry.stored_eq_self_iff (e : RaftLogEntry) :
    e.stored = e ↔ ∀ addr ∈ e.proposal.command.endpointHint, addr.Unscoped := by
  rw [← ControlPlaneProposal.onWire_eq_self_iff, RaftLogEntry.stored_eq]
  exact ⟨congrArg RaftLogEntry.proposal, fun hproposal => by rw [hproposal]⟩

namespace ClusterConfig

variable {cfg : ClusterConfig} {cl cl' : Cluster} {action : Action} {output : Output}

lemma commitStreamExact_refl (c : ConsensusCore) : CommitStreamExact c c [] :=
  ⟨le_rfl, le_rfl, by simp, by simp⟩

/-- A step of a replica whose messages come from the network emits exactly what it commits. -/
lemma commitStreamExact_step (h : cl.Sound cfg)
    (hmem : n ∈ cfg.roster.cells) (hpermitted : Permitted cl.network n input) :
    CommitStreamExact (cl.nodes n).core ((cl.nodes n).core.step input).1
        ((cl.nodes n).core.step input).2 ∧
      KeepsCommitted id (cl.nodes n).core ((cl.nodes n).core.step input).1 := by
  have hnode := h.node n hmem
  have hlocal : (cl.nodes n).core.localId ∈ (cl.nodes n).core.roster.cells := by
    rw [(h.placed n).localId, (h.placed n).roster]
    exact hmem
  have hwire : ∀ sender message, input = .receiveMessage sender message → message.WireOk := by
    rintro sender message rfl
    exact h.wire _ hpermitted
  obtain ⟨hafter, hgrows, hshape⟩ := (moves_step _ input).commitShape hnode hlocal hwire
  exact ⟨commitStreamExact_of_grows hnode.log hafter.log hgrows hshape (commitCount_step _ _),
    hgrows.keepsCommitted hnode.log⟩

/-- A restart takes the committed entries from the store. -/
lemma commitStreamExact_crash (h : NodeOk node)
    (hroster : node.core.roster = cfg.roster)
    (hrestart : rehydrate n cfg.roster (cfg.timing n) node.durable = .ok core) :
    CommitStreamExact node.core core [] ∧ core.snapshotMeta = node.core.snapshotMeta ∧
      core.logTail = node.core.logTail.map RaftLogEntry.stored := by
  obtain ⟨-, hcommit, hterm⟩ := h.restarted hroster hrestart
  obtain ⟨-, -, -, hmeta, -, htail, -⟩ := rehydrate_eq_ok hrestart
  exact ⟨⟨hterm.ge, hcommit.ge, by simp, by simp⟩, hmeta.trans h.durable.snapshotMeta,
    htail.trans h.durable.logTail⟩

lemma commitStreamExact_snapshot (h : NodeOk node)
    (hindex : node.applied.index ≠ 0) (root : Digest) (bytes : List UInt8) :
    CommitStreamExact node.core (snapshotted node root bytes).core [] ∧
      KeepsCommitted id node.core (snapshotted node root bytes).core := by
  have hgrows : Grows node.core (snapshotted node root bytes).core := by
    rw [h.snapshotted_eq hindex]
    refine grows_compacted ?_ bytes
    exact h.applied.index ▸ h.log.snapshot_le
  exact ⟨⟨hgrows.term, hgrows.commit, by simp, by simp⟩, hgrows.keepsCommitted h.log⟩

/-- A restart keeps a committed entry where storing the entry loses nothing. -/
lemma keepsCommitted_reloaded_iff (h : LogOk p) (hmeta : q.snapshotMeta = p.snapshotMeta)
    (htail : q.logTail = p.logTail.map RaftLogEntry.stored) :
    KeepsCommitted id p q ↔ ∀ e ∈ p.logTail, e.index ≤ p.commitIndex → e.stored = e := by
  constructor
  · intro hkeeps e he hle
    rcases hkeeps e he hle with hin | ⟨m, hm, hcovered⟩
    · rw [htail] at hin
      obtain ⟨e', -, hstored⟩ := mem_map.mp hin
      rw [← show e'.stored = e from hstored, RaftLogEntry.stored_stored]
    · -- the entries of the tail lie above the snapshot
      have hlt := h.snapshot_lt_index he
      rw [hmeta] at hm
      simp only [snapshotIndex, hm, Option.map_some, Option.getD_some] at hlt
      omega
  · intro hsame e he hle
    refine .inl ?_
    rw [htail]
    exact mem_map.mpr ⟨e, he, hsame e he hle⟩

/-- In every cluster that a run reaches, every further step reports exactly what each replica
commits, and what a replica has committed stays in its log until a snapshot covers it, up to the
form in which its store reloads it. It stays as it was unless the replica crashes with a committed
entry whose endpoint has flow information or a scope. -/
theorem commitStreamExact_of_run {h : List (Event Cluster Action Output)}
    (hrun : cfg.ClusterRun h cl) (hexec : cfg.exec cl action = .ok (cl', output))
    (n : CellIdentity) :
    CommitStreamExact (cl.nodes n).core (cl'.nodes n).core (output.effectsOf n) ∧
      (KeepsCommitted id (cl.nodes n).core (cl'.nodes n).core ∨
        KeepsCommitted RaftLogEntry.stored (cl.nodes n).core (cl'.nodes n).core) ∧
      (KeepsCommitted id (cl.nodes n).core (cl'.nodes n).core ↔
        (action = .crash n → ∀ e ∈ (cl.nodes n).core.logTail,
          e.index ≤ (cl.nodes n).core.commitIndex →
            ∀ addr ∈ e.proposal.command.endpointHint, addr.Unscoped)) := by
  have hsound := sound_of_run hrun
  simp only [← RaftLogEntry.stored_eq_self_iff]
  by_cases hacts : n = output.node
  · rw [Output.effectsOf, if_pos hacts]
    cases transition_of_exec hexec with
    | step hinput hmem hpermitted =>
      subst hacts
      rw [emit_nodes_self]
      obtain ⟨hexact, hkeeps⟩ := commitStreamExact_step hsound hmem hpermitted
      refine ⟨hexact, .inl hkeeps, iff_of_true hkeeps ?_⟩
      rintro rfl
      cases hinput
    | crash hmem hrestart hcrash =>
      subst hacts
      rw [replace_nodes_self]
      obtain ⟨hexact, hmeta, htail⟩ :=
        commitStreamExact_crash (hsound.node _ hmem) (hsound.placed _).roster hrestart
      refine ⟨hexact, .inr fun e he _ => .inl (htail ▸ mem_map_of_mem he), ?_⟩
      rw [imp_iff_right hcrash]
      exact keepsCommitted_reloaded_iff (hsound.node _ hmem).log hmeta htail
    | snapshot hmem hindex _ hsnapshot =>
      subst hacts
      rw [replace_nodes_self]
      obtain ⟨hexact, hkeeps⟩ := commitStreamExact_snapshot (hsound.node _ hmem) hindex _ _
      exact ⟨hexact, .inl hkeeps, iff_of_true hkeeps (by simp [hsnapshot])⟩
  · -- the other replicas are as they were
    have hkeeps : KeepsCommitted id (cl.nodes n).core (cl.nodes n).core := fun e he _ => .inl he
    have hsame : cl'.nodes n = cl.nodes n ∧ action ≠ .crash n := by
      cases transition_of_exec hexec with
      | step hinput =>
        refine ⟨emit_nodes_ne hacts, ?_⟩
        rintro rfl
        cases hinput
      | crash _ _ hcrash => exact ⟨replace_nodes_ne hacts, by simpa [hcrash, eq_comm] using hacts⟩
      | snapshot _ _ _ hsnapshot => exact ⟨replace_nodes_ne hacts, by simp [hsnapshot]⟩
    rw [Output.effectsOf, if_neg hacts, hsame.1]
    exact ⟨commitStreamExact_refl _, .inl hkeeps,
      iff_of_true hkeeps fun hcrash => absurd hcrash hsame.2⟩

def soleCluster : ClusterConfig where
  roster := soleVoter
  timing _ := .default
  timing_ok _ := rfl

lemma soleProposal (p : ControlPlaneProposal) : ∃ cl output cl' output',
    soleCluster.exec soleCluster.start (.propose 1 p none) = .ok (cl, output) ∧
    .advanceCommitIndex 1 1 [RaftLogEntry.new 1 1 p] ∈ output.effectsOf 1 ∧
    (cl.nodes 1).core.logTail = [RaftLogEntry.new 1 1 p] ∧ (cl.nodes 1).core.commitIndex = 1 ∧
    soleCluster.exec cl (.crash 1) = .ok (cl', output') ∧
    (cl'.nodes 1).core.logTail = [(RaftLogEntry.new 1 1 p).stored] ∧
    (cl'.nodes 1).core.snapshotMeta = none :=
  ⟨_, _, _, _, rfl, .tail _ (.head _), rfl, rfl, rfl, rfl, rfl⟩

/-- A single voter commits its first proposal and has it after a crash. -/
theorem commitStreamExact_soleProposal :
    ∃ h cl output cl' output', soleCluster.ClusterRun h cl ∧
      soleCluster.exec soleCluster.start (.propose 1 trustProposal none) = .ok (cl, output) ∧
      .advanceCommitIndex 1 1 [RaftLogEntry.new 1 1 trustProposal] ∈ output.effectsOf 1 ∧
      CommitStreamExact (soleCluster.start.nodes 1).core (cl.nodes 1).core (output.effectsOf 1) ∧
      soleCluster.exec cl (.crash 1) = .ok (cl', output') ∧
      (cl.nodes 1).core.logTail = [RaftLogEntry.new 1 1 trustProposal] ∧
      (cl.nodes 1).core.commitIndex = 1 ∧
      KeepsCommitted id (cl.nodes 1).core (cl'.nodes 1).core := by
  obtain ⟨cl, output, cl', output', hpropose, hadvance, htail, hcommit, hcrash, -⟩ :=
    soleProposal trustProposal
  have hrun := Run.refl.snoc hpropose
  refine ⟨_, cl, output, cl', output', hrun, hpropose, hadvance,
    (commitStreamExact_of_run .refl hpropose 1).1, hcrash, htail, hcommit, ?_⟩
  refine (commitStreamExact_of_run hrun hcrash 1).2.2.mpr fun _ e he _ => ?_
  obtain rfl := mem_singleton.mp (htail ▸ he)
  simp [RaftLogEntry.new, trustProposal, ControlPlaneCommand.endpointHint]

/-- After a crash the voter holds another entry than the one it committed. -/
theorem crash_rewrites_committed :
    ∃ h cl cl' output, soleCluster.ClusterRun h cl ∧
      soleCluster.exec cl (.crash 1) = .ok (cl', output) ∧
      ∃ e ∈ (cl.nodes 1).core.logTail, e.index ≤ (cl.nodes 1).core.commitIndex ∧
        e ∉ (cl'.nodes 1).core.logTail ∧ (cl'.nodes 1).core.snapshotMeta = none := by
  obtain ⟨cl, _, cl', output, hpropose, -, htail, hcommit, hcrash, hreloaded, hmeta⟩ :=
    soleProposal linkLocalUpsert
  refine ⟨_, cl, cl', output, Run.refl.snoc hpropose, hcrash,
    RaftLogEntry.new 1 1 linkLocalUpsert, ?_, hcommit.ge, ?_, hmeta⟩
  · rw [htail]
    exact .head _
  · rw [hreloaded, RaftLogEntry.stored_eq]
    intro hmem
    have hproposal := congrArg RaftLogEntry.proposal (mem_singleton.mp hmem)
    revert hproposal
    decide

end ClusterConfig

end Nlos.Consensus
