import Nlos.Consensus.Replica

/-!
# What a move does to committed entries

The term and the commit index of a replica never go back, and committed entries stay in its log
until a snapshot covers them. A move that advances the commit index reports the entries passed.
-/

namespace Nlos.Consensus

open Lib ConsensusCore List

namespace ConsensusCore

variable {input : ConsensusInput} {c c' c'' : ConsensusCore} {effects : List ConsensusEffect}

/-- The term, the commit index and the snapshot only move forward, and committed entries stay or
are covered by the snapshot. -/
structure Grows (c c' : ConsensusCore) : Prop where
  term : c.currentTerm ≤ c'.currentTerm
  commit : c.commitIndex ≤ c'.commitIndex
  snapshot : c.snapshotIndex ≤ c'.snapshotIndex
  kept : ∀ e ∈ c.logTail, e.index ≤ c.commitIndex →
    e ∈ c'.logTail ∨ e.index ≤ c'.snapshotIndex

namespace Grows

lemma of_same (hterm : c.currentTerm ≤ c'.currentTerm) (hcommit : c.commitIndex ≤ c'.commitIndex)
    (hmeta : c'.snapshotMeta = c.snapshotMeta) (htail : c'.logTail = c.logTail) : Grows c c' where
  term := hterm
  commit := hcommit
  snapshot := by simp only [snapshotIndex, hmeta, le_refl]
  kept e he _ := .inl (htail ▸ he)

protected theorem refl (c : ConsensusCore) : Grows c c := of_same le_rfl le_rfl rfl rfl

lemma trans (h : Grows c c') (h' : Grows c' c'') : Grows c c'' where
  term := h.term.trans h'.term
  commit := h.commit.trans h'.commit
  snapshot := h.snapshot.trans h'.snapshot
  kept e he hle := by
    rcases h.kept e he hle with hin | hcovered
    · exact h'.kept e hin (hle.trans h.commit)
    · exact .inr (hcovered.trans h'.snapshot)

lemma of_tail (h : LogOk c) {tail index}
    (hkeep : c.logTail.take (c.commitIndex - c.snapshotIndex) <+: tail)
    (hindex : c.commitIndex ≤ index) :
    Grows c { c with logTail := tail, commitIndex := index } where
  term := le_rfl
  commit := hindex
  snapshot := le_rfl
  kept e he hle := by
    refine .inl (hkeep.subset ?_)
    have hget := h.numbered.getElem?_of_mem he
    rw [firstUncompactedIndex_eq] at hget
    have hlt := h.snapshot_lt_index he
    refine mem_of_getElem? (i := e.index - (c.snapshotIndex + 1)) ?_
    rw [getElem?_take, if_pos (by omega), hget]

lemma append (h : LogOk c) (entry : RaftLogEntry) {index} (hindex : c.commitIndex ≤ index) :
    Grows c { c.appendProposal entry with commitIndex := index } := by
  have hkeep := (List.take_prefix (c.commitIndex - c.snapshotIndex) c.logTail).trans
    (prefix_append _ [entry])
  exact (of_tail h hkeep hindex).trans (of_same le_rfl le_rfl rfl rfl)

end Grows

lemma Move.grows (h : LogOk c) (hmove : Move input c effects c') : Grows c c' := by
  cases hmove with
  | quiet hstate =>
    exact .of_same (protocol_congr currentTerm (fun _ => rfl) hstate).ge
      (protocol_congr commitIndex (fun _ => rfl) hstate).ge
      (protocol_congr snapshotMeta (fun _ => rfl) hstate)
      (protocol_congr logTail (fun _ => rfl) hstate)
  | adopt hlt => exact .of_same hlt.le le_rfl rfl rfl
  | campaign => exact .of_same (Nat.le_succ _) le_rfl rfl rfl
  | propose => exact .append h _ le_rfl
  | proposeAlone _ _ _ hentry =>
    refine .append h _ ?_
    subst hentry
    exact h.commit_le.trans (Nat.le_succ _)
  | commit _ hlt => exact .of_same le_rfl hlt.le rfl rfl
  | reconcile =>
    obtain ⟨index, hle, -, hfst⟩ := c.reconcile_fst _ _ _ _
    rw [hfst]
    exact .of_tail h (h.mergedTail _).2 hle
  | acknowledge =>
    obtain ⟨rounds, heq⟩ := c.acknowledgeRound_eq _ _
    rw [heq]
    exact .of_same le_rfl le_rfl rfl rfl
  | install _ _ hcommit =>
    exact ⟨le_rfl, Nat.le_max_left _ _, h.snapshot_le.trans hcommit.le,
      fun e _ hle => .inr (hle.trans hcommit.le)⟩
  | _ => exact .of_same le_rfl le_rfl rfl rfl

lemma grows_compacted (hsnapshot : c.snapshotIndex ≤
    snapshot.includedIndex) (bytes : List UInt8) : Grows c (c.compacted snapshot bytes) where
  term := le_rfl
  commit := le_rfl
  snapshot := hsnapshot
  kept e he _ := by
    rcases Nat.lt_or_ge snapshot.includedIndex e.index with hlt | hge
    · exact .inl (mem_filter.mpr ⟨he, by simpa using hlt⟩)
    · exact .inr hge

/-! ## What a commit effect reports -/

end ConsensusCore

@[simp] def ConsensusEffect.movesCommit : ConsensusEffect → Bool
  | .advanceCommitIndex _ _ _ => true
  | .installSnapshot _ _ => true
  | _ => false

namespace ConsensusCore

structure Commits (c c' : ConsensusCore) (index : ℕ) (newlyCommitted : List RaftLogEntry) :
    Prop where
  index_eq : c'.commitIndex = index
  boundary : c'.snapshotMeta = c.snapshotMeta
  numbered : Numbered RaftLogEntry.index (c.commitIndex + 1) newlyCommitted
  length : c.commitIndex + newlyCommitted.length = index
  mem : ∀ e ∈ newlyCommitted, e ∈ c'.logTail

structure CommitShape (c c' : ConsensusCore) (effects : List ConsensusEffect) : Prop where
  idle : effects.filter ConsensusEffect.movesCommit = [] →
    c'.commitIndex = c.commitIndex ∧ c'.snapshotMeta = c.snapshotMeta
  advance : ∀ index term newlyCommitted,
    effects.filter ConsensusEffect.movesCommit =
      [.advanceCommitIndex index term newlyCommitted] → Commits c c' index newlyCommitted

lemma commits_collectRange (h : LogOk c) (hlt : c.commitIndex < index)
    (hle : index ≤ c.lastLogIndex) : Commits c { c with commitIndex := index } index
      (c.collectRange (c.commitIndex + 1) index) := by
  have hfirst : c.snapshotIndex < c.commitIndex + 1 := Nat.lt_succ_of_le h.snapshot_le
  obtain ⟨hnum, hcount⟩ := h.numbered_collectRange hfirst (by omega) hle
  exact ⟨rfl, rfl, hnum, by omega, fun e he => mem_of_mem_collectRange he⟩

/-- Changes one after another, the second of which keeps what is committed. -/
lemma CommitShape.append (h : CommitShape c c' effects)
    (h' : CommitShape c' c'' effects') (hlog : c.snapshotIndex ≤ c.commitIndex)
    (hgrows : Grows c' c'') : CommitShape c c'' (effects ++ effects') := by
  refine ⟨fun hnone => ?_, fun index term newlyCommitted hone => ?_⟩
  · rw [filter_append, append_eq_nil_iff] at hnone
    obtain ⟨hcommit, hmeta⟩ := h.idle hnone.1
    obtain ⟨hcommit', hmeta'⟩ := h'.idle hnone.2
    exact ⟨hcommit'.trans hcommit, hmeta'.trans hmeta⟩
  · rw [filter_append, append_eq_singleton_iff] at hone
    rcases hone with ⟨hnone, hone⟩ | ⟨hone, hnone⟩
    · obtain ⟨hcommit, hmeta⟩ := h.idle hnone
      obtain ⟨hindex, hboundary, hnum, hlen, hmem⟩ := h'.advance _ _ _ hone
      exact ⟨hindex, hboundary.trans hmeta, hcommit ▸ hnum, hcommit ▸ hlen, hmem⟩
    · obtain ⟨hindex, hboundary, hnum, hlen, hmem⟩ := h.advance _ _ _ hone
      obtain ⟨hcommit, hmeta⟩ := h'.idle hnone
      refine ⟨hcommit.trans hindex, hmeta.trans hboundary, hnum, hlen, fun e he => ?_⟩
      have hbounds := hnum.bounds he
      rcases hgrows.kept e (hmem e he) (by omega) with hkept | hcovered
      · exact hkept
      · -- the snapshot is the one from before, and it ends below the old commit index
        have hsame : c''.snapshotIndex = c.snapshotIndex := by
          simp only [snapshotIndex, hmeta, hboundary]
        omega

lemma commitShape_of_idle (heffects : ∀ e ∈ effects, e.movesCommit = false)
    (hcommit : c'.commitIndex = c.commitIndex) (hmeta : c'.snapshotMeta = c.snapshotMeta) :
    CommitShape c c' effects := by
  have hnone : effects.filter ConsensusEffect.movesCommit = [] := by
    simpa [filter_eq_nil_iff] using heffects
  refine ⟨fun _ => ⟨hcommit, hmeta⟩, fun index term newlyCommitted hone => ?_⟩
  rw [hnone] at hone
  simp at hone

lemma commitShape_of_advance (before after : List ConsensusEffect)
    (hbefore : ∀ e ∈ before, e.movesCommit = false)
    (hafter : ∀ e ∈ after, e.movesCommit = false) (h : Commits c c' index newlyCommitted) :
    CommitShape c c' (before ++ .advanceCommitIndex index term newlyCommitted :: after) := by
  have hone : (before ++ .advanceCommitIndex index term newlyCommitted :: after).filter
      ConsensusEffect.movesCommit = [.advanceCommitIndex index term newlyCommitted] := by
    rw [filter_append, filter_eq_nil_iff.mpr (by simpa using hbefore),
      filter_cons_of_pos rfl, filter_eq_nil_iff.mpr (by simpa using hafter)]
    rfl
  refine ⟨fun hnone => ?_, fun index' term' newlyCommitted' hone' => ?_⟩
  · rw [hone] at hnone
    simp at hnone
  · rw [hone] at hone'
    obtain ⟨rfl, -, rfl⟩ : index = index' ∧ term = term' ∧ newlyCommitted = newlyCommitted' := by
      simpa using hone'
    exact h

lemma movesCommit_of_not_stored {e : ConsensusEffect} (h : e.isStored = false) :
    e.movesCommit = false := by
  cases e <;> first | rfl | cases h

lemma movesCommit_merge {base commitIndex logTail entries s}
    (hs : spliceEntries base commitIndex logTail entries = s) :
    (∀ e ∈ s.truncations, e.movesCommit = false) ∧
      ∀ e ∈ appendEffects s.newlyAppended, e.movesCommit = false := by
  constructor
  · intro e he
    obtain ⟨index, rfl⟩ := truncations_spliceEntries base commitIndex logTail entries e (hs ▸ he)
    rfl
  · intro e he
    unfold appendEffects at he
    split at he
    · simp at he
    · rw [mem_singleton.mp he]
      rfl

lemma commitShape_reconcile (h : LogOk c) (leader : CellIdentity)
    (entries : List RaftLogEntry) (leaderCommit round : ℕ) :
    CommitShape c (c.reconcileAndCommitEntries leader entries leaderCommit round).1
      (c.reconcileAndCommitEntries leader entries leaderCommit round).2 := by
  have hmerged := (h.mergedTail entries).1
  unfold mergedTail at hmerged
  unfold reconcileAndCommitEntries
  dsimp only
  generalize hs : spliceEntries c.firstUncompactedIndex c.commitIndex c.logTail entries = s at *
  obtain ⟨htruncated, happended⟩ := movesCommit_merge hs
  split
  · unfold followLeaderCommit
    split
    · next hlt =>
      dsimp only [advanceCommit]
      rw [append_assoc]
      obtain ⟨-, -, hnum, hlen, hmem⟩ :=
        commits_collectRange hmerged hlt.2 (Nat.min_le_right _ _)
      refine commitShape_of_advance _ _ ?_ (by simp [appendResponse])
        ⟨rfl, rfl, hnum, hlen, hmem⟩
      exact fun e he => (mem_append.mp he).elim (htruncated e) (happended e)
    · refine commitShape_of_idle ?_ rfl rfl
      simp only [append_nil, mem_append, mem_singleton]
      rintro e ((he | he) | rfl)
      · exact htruncated e he
      · exact happended e he
      · rfl
  · refine commitShape_of_idle ?_ rfl rfl
    simp only [mem_append, mem_singleton]
    rintro e (he | rfl)
    · exact htruncated e he
    · rfl

lemma Move.commitShape {node : Node} (h : NodeOk node)
    (hmove : Move input node.core effects c') : CommitShape node.core c' effects := by
  cases hmove with
  | quiet hstate hquiet =>
    exact commitShape_of_idle (fun e he => movesCommit_of_not_stored (hquiet e he).not_stored)
      (protocol_congr commitIndex (fun _ => rfl) hstate)
      (protocol_congr snapshotMeta (fun _ => rfl) hstate)
  | campaign =>
    refine commitShape_of_idle ?_ rfl rfl
    intro e he
    rcases mem_cons.mp he with rfl | he
    · rfl
    · exact movesCommit_of_not_stored (isStored_sendToPeers _ _ e he)
  | proposeAlone _ _ hlen hentry =>
    -- a single voter has committed its whole log
    have hcommit := (h.durable.sole hlen).2
    subst hentry
    refine commitShape_of_advance [.appendLogEntries _] [] (by simp) (by simp) ?_
    refine ⟨rfl, rfl, ?_, ?_, ?_⟩
    · rw [numbered_cons]
      exact ⟨by rw [hcommit]; rfl, numbered_nil⟩
    · rw [hcommit]
      rfl
    · intro e he
      exact mem_append_right _ he
  | commit _ hlt hle =>
    exact commitShape_of_advance [] [] (by simp) (by simp)
      (commits_collectRange h.log hlt hle)
  | reconcile => exact commitShape_reconcile h.log _ _ _ _
  | acknowledge =>
    obtain ⟨rounds, heq⟩ := node.core.acknowledgeRound_eq _ _
    rw [heq]
    exact commitShape_of_idle (by simp) rfl rfl
  | sweep =>
    exact commitShape_of_idle (fun e he => movesCommit_of_not_stored (isStored_sweep _ e he))
      rfl rfl
  | replicate =>
    refine commitShape_of_idle (fun e he => ?_) rfl rfl
    rw [mem_singleton.mp he]
    exact movesCommit_of_not_stored (isStored_buildReplicationForPeer _ _ _)
  | install => exact ⟨by simp, by simp [filter_cons]⟩
  | _ =>
    exact commitShape_of_idle
      (by simp [voteResponse, appendResponse, snapshotResponse])
      rfl rfl

end ConsensusCore

end Nlos.Consensus
