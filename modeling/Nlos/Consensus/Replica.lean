import Nlos.Consensus.Cluster
import Nlos.Consensus.LogMerge

/-!
# Replicas and their durable state

In every run of a cluster each replica's durable state holds exactly the log, as the store
reloads it, the snapshot and the hard state of its core, the state machine has applied exactly the
committed entries, and the entries in append messages are consecutive and intact.
-/

namespace Nlos.Consensus

open Lib ConsensusCore List AppliedUpTo

variable {input : ConsensusInput} {message : RaftMessage} {n target : CellIdentity}
  {entries : List RaftLogEntry} {durable : RehydratedCoreState}

def ConsensusEffect.isStored : ConsensusEffect → Bool
  | .persistHardState _ _ => true
  | .installSnapshot _ _ => true
  | .truncateLogSuffixFrom _ => true
  | .appendLogEntries _ => true
  | .advanceCommitIndex _ _ _ => true
  | _ => false

/-- The entries of an append message follow its previous index and carry their digests. -/
def RaftMessage.WireOk : RaftMessage → Prop
  | .appendEntries _ _ prevLogIndex _ entries _ _ =>
    Numbered RaftLogEntry.index (prevLogIndex + 1) entries ∧ ∀ e ∈ entries, e.verifyIntegrity = true
  | _ => True

/-- The durable state is that of the core. A single voter's term is at least one without being
stored, and it commits its whole log. -/
structure DurableOk (core : ConsensusCore) (durable : RehydratedCoreState) : Prop where
  logTail : durable.logTail = core.logTail.map RaftLogEntry.stored
  snapshotMeta : durable.snapshot.map Prod.fst = core.snapshotMeta
  snapshotBytes : durable.snapshot.map Prod.snd = core.snapshotBytes
  commitIndex : durable.commitIndex = core.commitIndex
  hardState : core.roster.len ≠ 1 →
    durable.currentTerm = core.currentTerm ∧ durable.votedFor = core.votedFor
  sole : core.roster.len = 1 →
    core.currentTerm = max durable.currentTerm 1 ∧ core.commitIndex = core.lastLogIndex

structure AppliedOk (core : ConsensusCore) (applied : AppliedUpTo) : Prop where
  index : applied.index = core.commitIndex
  term : applied.term = (core.termAt core.commitIndex).getD 0

structure NodeOk (node : Node) : Prop where
  log : LogOk node.core
  intact : ∀ e ∈ node.core.logTail, e.verifyIntegrity = true
  durable : DurableOk node.core node.durable
  applied : AppliedOk node.core node.applied

lemma filter_map_stored (p : ℕ → Bool) (l : List RaftLogEntry) :
    (l.map RaftLogEntry.stored).filter (fun e => p e.index) =
      (l.filter fun e => p e.index).map RaftLogEntry.stored := by
  rw [filter_map]
  simp only [Function.comp_def, RaftLogEntry.index_stored]

variable {e : ConsensusEffect}

lemma RehydratedCoreState.record_of_not_stored (d : RehydratedCoreState)
    (h : e.isStored = false) : d.record e = d := by
  cases e <;> first | rfl | cases h

lemma AppliedUpTo.record_of_not_stored (a : AppliedUpTo)
    (h : e.isStored = false) : a.record e = a := by
  cases e <;> first | rfl | cases h

lemma foldl_eq_self {α β : Type} {f : α → β → α} {l : List β} {a}
    (h : ∀ b ∈ l, f a b = a) : l.foldl f a = a := by
  induction l with
  | nil => rfl
  | cons b l ih =>
    rw [foldl_cons, h b mem_cons_self]
    exact ih fun x hx => h x (mem_cons_of_mem _ hx)

variable {effects : List ConsensusEffect}

lemma Node.emit_of_not_stored (node : Node)
    (core : ConsensusCore) (h : ∀ e ∈ effects, e.isStored = false) :
    node.emit effects core = { node with core := core } := by
  unfold Node.emit
  rw [foldl_eq_self fun e he => node.durable.record_of_not_stored (h e he),
    foldl_eq_self fun e he => node.applied.record_of_not_stored (h e he)]

lemma ConsensusEffect.Quiet.not_stored (h : e.Quiet) : e.isStored = false := by
  cases e <;> first | rfl | cases h

structure SameStored (c c' : ConsensusCore) : Prop where
  roster : c'.roster = c.roster
  currentTerm : c'.currentTerm = c.currentTerm
  votedFor : c'.votedFor = c.votedFor
  snapshotMeta : c'.snapshotMeta = c.snapshotMeta
  snapshotBytes : c'.snapshotBytes = c.snapshotBytes
  logTail : c'.logTail = c.logTail
  commitIndex : c'.commitIndex = c.commitIndex

lemma SameStored.of_protocol (h : c'.protocol = c.protocol) : SameStored c c' where
  roster := protocol_congr ConsensusCore.roster (fun _ => rfl) h
  currentTerm := protocol_congr ConsensusCore.currentTerm (fun _ => rfl) h
  votedFor := protocol_congr ConsensusCore.votedFor (fun _ => rfl) h
  snapshotMeta := protocol_congr ConsensusCore.snapshotMeta (fun _ => rfl) h
  snapshotBytes := protocol_congr ConsensusCore.snapshotBytes (fun _ => rfl) h
  logTail := protocol_congr ConsensusCore.logTail (fun _ => rfl) h
  commitIndex := protocol_congr ConsensusCore.commitIndex (fun _ => rfl) h

namespace SameStored

variable {c c' : ConsensusCore} (h : SameStored c c')

include h

lemma lastLogIndex : c'.lastLogIndex = c.lastLogIndex := by
  simp only [ConsensusCore.lastLogIndex, ConsensusCore.snapshotIndex, h.snapshotMeta, h.logTail]

lemma termAt (index : ℕ) : c'.termAt index = c.termAt index := by
  unfold ConsensusCore.termAt tailTermAt firstUncompactedIndex
  rw [h.snapshotMeta, h.logTail]

end SameStored

/-- The core of a replica with its log as the store reloads it. -/
def ConsensusCore.reloaded (c : ConsensusCore) : ConsensusCore :=
  { c with logTail := c.logTail.map RaftLogEntry.stored }

lemma ConsensusCore.lastLogIndex_reloaded (c : ConsensusCore) :
    c.reloaded.lastLogIndex = c.lastLogIndex := by
  simp only [reloaded, lastLogIndex, getLast?_map]
  cases c.logTail.getLast? <;> simp [snapshotIndex]

lemma ConsensusCore.termAt_reloaded (c : ConsensusCore) (index : ℕ) :
    c.reloaded.termAt index = c.termAt index := by
  have htail : c.reloaded.tailTermAt index = c.tailTermAt index := by
    simp [reloaded, tailTermAt, firstUncompactedIndex, Function.comp_def]
    rfl
  unfold termAt
  rw [htail]
  rfl

lemma NodeOk.frame (h : NodeOk node) (heffects : ∀ e ∈ effects, e.isStored = false)
    (hsame : SameStored node.core core) : NodeOk (node.emit effects core) := by
  rw [Node.emit_of_not_stored node core heffects]
  obtain ⟨hlog, hintact, hdurable, happlied⟩ := h
  refine ⟨hlog.congr hsame.snapshotMeta hsame.logTail hsame.commitIndex, ?_, ?_, ?_⟩
  · simpa only [hsame.logTail] using hintact
  · obtain ⟨h1, h2, h3, h4, h5, h6⟩ := hdurable
    refine ⟨?_, ?_, ?_, ?_, ?_, ?_⟩
    · simpa only [hsame.logTail] using h1
    · simpa only [hsame.snapshotMeta] using h2
    · simpa only [hsame.snapshotBytes] using h3
    · simpa only [hsame.commitIndex] using h4
    · simpa only [hsame.roster, hsame.currentTerm, hsame.votedFor] using h5
    · simpa only [hsame.roster, hsame.currentTerm, hsame.commitIndex, hsame.lastLogIndex] using h6
  · exact ⟨by simpa only [hsame.commitIndex] using happlied.index,
      by simpa only [hsame.commitIndex, hsame.termAt] using happlied.term⟩

/-! ## Moves that store something -/

section

variable {node : Node} {core : ConsensusCore} {effects effects' : List ConsensusEffect}

/-- The state between two groups of effects does not matter for what is stored. -/
lemma Node.emit_emit (between : ConsensusCore) :
    (node.emit effects between).emit effects' core = node.emit (effects ++ effects') core := by
  unfold Node.emit
  simp [foldl_append]

lemma NodeOk.persist (h : NodeOk node) {term vote} (hterm : node.core.roster.len = 1 → 1 ≤ term)
    (hsame : SameStored { node.core with currentTerm := term, votedFor := vote } core) :
    NodeOk (node.emit [.persistHardState term vote] core) := by
  have hpersist : NodeOk (node.emit [.persistHardState term vote]
      { node.core with currentTerm := term, votedFor := vote }) := by
    obtain ⟨hlog, hintact, hdurable, happlied⟩ := h
    refine ⟨hlog.congr rfl rfl rfl, hintact, ?_, ⟨happlied.index, happlied.term⟩⟩
    refine ⟨hdurable.logTail, hdurable.snapshotMeta, hdurable.snapshotBytes,
      hdurable.commitIndex, fun _ => ⟨rfl, rfl⟩, fun hlen => ⟨?_, (hdurable.sole hlen).2⟩⟩
    exact (Nat.max_eq_left (hterm hlen)).symm
  have hframe := hpersist.frame (forall_mem_nil _) hsame
  rwa [Node.emit_emit] at hframe

lemma AppliedUpTo.applyAll_numbered {a : AppliedUpTo} {l e}
    (h : Numbered RaftLogEntry.index (a.index + 1) l) (hlast : l.getLast? = some e) :
    a.applyAll l = ⟨e.index, e.term⟩ := by
  unfold applyAll
  induction l generalizing a with
  | nil => simp at hlast
  | cons x l ih =>
    obtain ⟨hx, hl⟩ := numbered_cons.mp h
    rw [foldl_cons, if_neg (by omega)]
    cases l with
    | nil =>
      obtain rfl : x = e := by simpa using hlast
      rfl
    | cons => exact ih (hx ▸ hl) (by simpa using hlast)

lemma NodeOk.advance (h : NodeOk node) (hlen : node.core.roster.len ≠ 1) {index}
    (hlt : node.core.commitIndex < index) (hle : index ≤ node.core.lastLogIndex) :
    NodeOk (node.emit (node.core.advanceCommit index).2 (node.core.advanceCommit index).1) := by
  obtain ⟨hlog, hintact, hdurable, happlied⟩ := h
  have hsnap := hlog.snapshot_le
  have hlast := hlog.lastLogIndex_eq
  refine ⟨hlog.with_commit hlt.le hle, hintact, ?_, ?_⟩
  · exact ⟨hdurable.logTail, hdurable.snapshotMeta, hdurable.snapshotBytes, rfl,
      hdurable.hardState, fun hone => absurd hone hlen⟩
  · -- the last entry applied is the one at the new commit index
    have hfirst : node.core.snapshotIndex < node.core.commitIndex + 1 := by omega
    obtain ⟨hnum, hcount⟩ := hlog.numbered_collectRange hfirst (by omega) hle
    obtain ⟨e, he⟩ : ∃ e, (node.core.collectRange (node.core.commitIndex + 1) index).getLast? =
        some e := by
      rw [← Option.isSome_iff_exists, getLast?_isSome, ← length_pos_iff]
      omega
    have hindex : e.index = index := by
      have := hnum.getLast? he
      omega
    have happly := AppliedUpTo.applyAll_numbered (a := node.applied) (happlied.index ▸ hnum) he
    have hterm : termAt { node.core with commitIndex := index } index = some e.term := by
      rw [← hindex]
      exact hlog.termAt_index (mem_of_mem_collectRange (mem_of_getLast? he))
    constructor
    · exact (congrArg AppliedUpTo.index happly).trans hindex
    · exact (congrArg AppliedUpTo.term happly).trans (congrArg (Option.getD · 0) hterm).symm

lemma NodeOk.with_tail (h : NodeOk node) (hlen : node.core.roster.len ≠ 1)
    {tail} (hlog : LogOk { node.core with logTail := tail })
    (hkeep : node.core.logTail.take (node.core.commitIndex - node.core.snapshotIndex) <+: tail)
    (hintact : ∀ e ∈ tail, e.verifyIntegrity = true)
    (hstored : effects.foldl .record node.durable =
      { node.durable with logTail := tail.map RaftLogEntry.stored })
    (happlied : effects.foldl .record node.applied = node.applied) :
    NodeOk (node.emit effects { node.core with logTail := tail }) := by
  have hlast := h.log.lastLogIndex_eq
  have hcommit := h.log.commit_le
  have hemit : node.emit effects { node.core with logTail := tail } =
      ⟨{ node.core with logTail := tail },
        { node.durable with logTail := tail.map RaftLogEntry.stored }, node.applied⟩ := by
    rw [Node.emit, hstored, happlied]
  rw [hemit]
  refine ⟨hlog, hintact, ?_, h.applied.index, ?_⟩
  · exact ⟨rfl, h.durable.snapshotMeta, h.durable.snapshotBytes, h.durable.commitIndex,
      h.durable.hardState, fun hone => absurd hone hlen⟩
  · rw [h.applied.term]
    change _ = (termAt { node.core with logTail := tail } node.core.commitIndex).getD 0
    rw [termAt_with_tail hkeep (by omega)]

lemma NodeOk.merge (h : NodeOk node) (hlen : node.core.roster.len ≠ 1)
    (hintact : ∀ e ∈ entries, e.verifyIntegrity = true) {s}
    (hs : s = spliceEntries node.core.firstUncompactedIndex node.core.commitIndex
      node.core.logTail entries)
    (hmerged : Merged node.core.firstUncompactedIndex node.core.commitIndex node.core.logTail
      entries s) : NodeOk (node.emit (s.truncations ++ appendEffects s.newlyAppended)
      { node.core with logTail := s.logTail }) := by
  obtain ⟨hlog, hkeep⟩ := h.log.mergedTail entries
  rw [mergedTail, ← hs] at hlog hkeep
  have hdurable := h.durable.logTail
  cases hmerged with
  | held => exact h.with_tail hlen hlog hkeep h.intact (by rw [← hdurable]; rfl) rfl
  | extended heq =>
    refine h.with_tail hlen hlog hkeep ?_ ?_ rfl
    · intro e he
      rcases mem_append.mp he with he | he
      · exact h.intact e he
      · exact hintact e (heq ▸ mem_append_right _ he)
    · simp [appendEffects, RehydratedCoreState.record, hdurable]
  | replaced heq =>
    refine h.with_tail hlen hlog hkeep ?_ ?_ rfl
    · intro e he
      rcases mem_append.mp he with he | he
      · exact h.intact e (mem_of_mem_take he)
      · exact hintact e (heq ▸ mem_append_right _ he)
    · have hnum := h.log.numbered.map RaftLogEntry.index_stored
      simp [appendEffects, RehydratedCoreState.record, hdurable, hnum.filter_below]

/-- The entries a replica merges are consecutive and leave no gap. -/
lemma ConsensusCore.Usable.numbered (h : LogOk c)
    (hentries : Numbered RaftLogEntry.index (prevLogIndex + 1) entries)
    (hused : Usable c prevLogIndex prevLogTerm entries used) : (∀ e ∈ used, e ∈ entries) ∧
      ∃ first, Numbered RaftLogEntry.index first used ∧ c.firstUncompactedIndex ≤ first ∧
        first ≤ c.firstUncompactedIndex + c.logTail.length ∧
        first + used.length = prevLogIndex + 1 + entries.length := by
  have hfirst := c.firstUncompactedIndex_eq
  have hlast := h.lastLogIndex_eq
  cases hused with
  | @aboveSnapshot e rest hbelow hfilter hindex =>
    have hsub : ∀ x ∈ e :: rest, x ∈ entries := fun x hx => mem_of_mem_filter (hfilter ▸ hx)
    rw [hentries.filter_lt] at hfilter
    have hlen : c.snapshotIndex + 1 - (prevLogIndex + 1) ≤ entries.length := by
      by_contra hlong
      rw [drop_eq_nil_of_le (by omega)] at hfilter
      simp at hfilter
    have hdrop := hentries.drop hlen
    rw [hfilter, Nat.add_sub_cancel' (by omega)] at hdrop
    refine ⟨hsub, c.snapshotIndex + 1, hdrop, hfirst.le, by omega, ?_⟩
    rw [← hfilter, length_drop]
    omega
  | matching habove hterm =>
    have hle := h.le_lastLogIndex_of_termAt hterm
    exact ⟨fun e he => he, prevLogIndex + 1, hentries, by omega, by omega, rfl⟩

lemma NodeOk.reconcile (h : NodeOk node) (hlen : node.core.roster.len ≠ 1)
    {leader prevLogIndex prevLogTerm leaderCommit round used}
    (hwire : Numbered RaftLogEntry.index (prevLogIndex + 1) entries ∧
      ∀ e ∈ entries, e.verifyIntegrity = true)
    (hused : Usable node.core prevLogIndex prevLogTerm entries used) : NodeOk (node.emit
      (node.core.reconcileAndCommitEntries leader used leaderCommit round).2
      (node.core.reconcileAndCommitEntries leader used leaderCommit round).1) := by
  obtain ⟨hsub, first, hnum, hbase, hgap, -⟩ := Usable.numbered h.log hwire.1 hused
  have hintact : ∀ e ∈ used, e.verifyIntegrity = true := fun e he => hwire.2 e (hsub e he)
  obtain ⟨s, hs⟩ : ∃ s, s = spliceEntries node.core.firstUncompactedIndex node.core.commitIndex
    node.core.logTail used := ⟨_, rfl⟩
  have hmerged : Merged node.core.firstUncompactedIndex node.core.commitIndex node.core.logTail
      used s := hs ▸ merged_spliceEntries hnum hintact hbase hgap
  have hmerge := h.merge hlen hintact hs hmerged
  rw [reconcile_of_intact hs hmerged.intact_eq]
  dsimp only
  set merged : ConsensusCore := { node.core with logTail := s.logTail }
  set result := merged.followLeaderCommit leaderCommit with hresult
  have hcommitted : NodeOk ((node.emit (s.truncations ++ appendEffects s.newlyAppended)
      merged).emit result.2 result.1) := by
    rw [hresult]
    unfold followLeaderCommit
    split
    · next hlt => exact hmerge.advance hlen hlt.2 (Nat.min_le_right _ _)
    · exact hmerge.frame (forall_mem_nil _) ⟨rfl, rfl, rfl, rfl, rfl, rfl, rfl⟩
  have hsame : SameStored result.1 result.1 := ⟨rfl, rfl, rfl, rfl, rfl, rfl, rfl⟩
  rw [← Node.emit_emit result.1, ← Node.emit_emit merged]
  exact hcommitted.frame (by simp [appendResponse, ConsensusEffect.isStored]) hsame

lemma NodeOk.propose (h : NodeOk node) (hlen : node.core.roster.len ≠ 1)
    {entry} (hindex : entry.index = node.core.lastLogIndex + 1)
    (hintact : entry.verifyIntegrity = true) :
    NodeOk (node.emit [.appendLogEntries [entry]] (node.core.appendProposal entry)) := by
  have htail : NodeOk (node.emit [.appendLogEntries [entry]]
      { node.core with logTail := node.core.logTail ++ [entry] }) := by
    refine h.with_tail hlen ((h.log.appendProposal hindex).1.congr rfl rfl rfl) ?_ ?_ ?_ rfl
    · exact (List.take_prefix _ _).trans (prefix_append _ _)
    · intro e he
      rcases mem_append.mp he with he | he
      · exact h.intact e he
      · rwa [mem_singleton.mp he]
    · rw [map_append, ← h.durable.logTail]
      rfl
  have hsame : SameStored { node.core with logTail := node.core.logTail ++ [entry] }
      (node.core.appendProposal entry) := ⟨rfl, rfl, rfl, rfl, rfl, rfl, rfl⟩
  have hframe := htail.frame (forall_mem_nil _) hsame
  rwa [Node.emit_emit] at hframe

lemma NodeOk.proposeAlone (h : NodeOk node) (hlen : node.core.roster.len = 1)
    {entry} (hindex : entry.index = node.core.lastLogIndex + 1)
    (hintact : entry.verifyIntegrity = true) (term : ℕ) : NodeOk (node.emit
      [.appendLogEntries [entry], .advanceCommitIndex entry.index term [entry]]
      { node.core.appendProposal entry with commitIndex := entry.index }) := by
  obtain ⟨hlog, hlast⟩ := h.log.appendProposal hindex
  obtain ⟨hterm, hcommit⟩ := h.durable.sole hlen
  have happlied : node.applied.applyAll [entry] = ⟨entry.index, entry.term⟩ := by
    refine AppliedUpTo.applyAll_numbered ?_ (by simp)
    rw [h.applied.index, hcommit, numbered_cons]
    exact ⟨hindex, numbered_nil⟩
  have hcommitted : LogOk { node.core.appendProposal entry with commitIndex := entry.index } := by
    refine hlog.with_commit ?_ hlast.ge
    change node.core.commitIndex ≤ entry.index
    omega
  have hentry : entry ∈ (node.core.appendProposal entry).logTail := by
    simp [appendProposal]
  refine ⟨hcommitted, ?_, ?_, ?_⟩
  · intro e he
    rcases mem_append.mp he with he | he
    · exact h.intact e he
    · rwa [mem_singleton.mp he]
  · refine ⟨?_, h.durable.snapshotMeta, h.durable.snapshotBytes, rfl,
      fun hne => absurd hlen hne, fun _ => ⟨hterm, hlast.symm⟩⟩
    change node.durable.logTail ++ _ = (node.core.logTail ++ [entry]).map _
    rw [h.durable.logTail, map_append]
  · refine ⟨congrArg AppliedUpTo.index happlied, (congrArg AppliedUpTo.term happlied).trans ?_⟩
    exact (congrArg (Option.getD · 0) (hcommitted.termAt_index hentry)).symm

lemma NodeOk.install (h : NodeOk node) (hlen : node.core.roster.len ≠ 1)
    (hcommit : node.core.commitIndex < snapshot.includedIndex) :
    NodeOk (node.emit [.installSnapshot snapshot bytes]
      (node.core.installSnapshot snapshot bytes)) := by
  have hsnap := h.log.snapshot_le
  -- the store looks for the boundary entry where the core looks up its term
  have hanchor : (node.durable.logTail.any fun e =>
      e.index = snapshot.includedIndex ∧ e.term = snapshot.includedTerm) = true ↔
      node.core.termAt snapshot.includedIndex = some snapshot.includedTerm := by
    rw [h.durable.logTail, any_map, any_eq_true]
    constructor
    · rintro ⟨e, he, hmatch⟩
      obtain ⟨hindex, hterm⟩ : e.index = snapshot.includedIndex ∧
        e.term = snapshot.includedTerm := by simpa using hmatch
      rw [← hindex, ← hterm]
      exact h.log.termAt_index he
    · intro hterm
      rw [termAt_of_lt (by omega), Option.map_eq_some_iff] at hterm
      obtain ⟨e, he, heq⟩ := hterm
      have hindex := h.log.numbered.num_eq he
      rw [firstUncompactedIndex_eq] at hindex
      refine ⟨e, mem_of_getElem? he, ?_⟩
      simp only [Function.comp_apply, RaftLogEntry.index_stored, RaftLogEntry.term_stored,
        decide_eq_true_eq]
      exact ⟨by omega, heq⟩
  have htail : (node.durable.record (.installSnapshot snapshot bytes)).logTail =
      (node.core.installSnapshot snapshot bytes).logTail.map RaftLogEntry.stored := by
    unfold RehydratedCoreState.record installSnapshot
    dsimp only
    by_cases hmatch : node.core.termAt snapshot.includedIndex = some snapshot.includedTerm
    · rw [if_pos hmatch, if_pos (hanchor.mpr hmatch), h.durable.logTail,
        filter_map_stored fun i => decide (snapshot.includedIndex < i)]
    · rw [if_neg hmatch, if_neg (fun hany => hmatch (hanchor.mp hany)), map_nil]
  have hindex : (node.core.installSnapshot snapshot bytes).commitIndex =
      snapshot.includedIndex := Nat.max_eq_right hcommit.le
  refine ⟨h.log.installSnapshot hcommit, ?_, ?_, ?_⟩
  · intro e he
    refine h.intact e ?_
    change e ∈ ite _ _ _ at he
    split at he
    · exact mem_of_mem_filter he
    · simp at he
  · refine ⟨htail, rfl, rfl, ?_, h.durable.hardState, fun hone => absurd hone hlen⟩
    change max node.durable.commitIndex _ = max node.core.commitIndex _
    rw [h.durable.commitIndex]
  · have happlied : node.applied.record (.installSnapshot snapshot bytes) =
        ⟨snapshot.includedIndex, snapshot.includedTerm⟩ :=
      if_pos (h.applied.index ▸ hcommit.le)
    refine ⟨(congrArg index happlied).trans hindex.symm, (congrArg term happlied).trans ?_⟩
    change _ = ((node.core.installSnapshot snapshot bytes).termAt
      (node.core.installSnapshot snapshot bytes).commitIndex).getD 0
    rw [hindex]
    simp [termAt, installSnapshot, show ¬ snapshot.includedIndex = 0 by omega]

lemma ConsensusCore.Hears.len_ne_one (hears : Hears input c sender message)
    (hlocal : c.localId ∈ c.roster.cells) : c.roster.len ≠ 1 := by
  intro hone
  have hcard := ValidatedVoterRoster.card_cells (r := c.roster)
  rw [show c.roster.members.length = 1 from hone, Finset.card_eq_one] at hcard
  obtain ⟨only, honly⟩ := hcard
  have hmem := hears.mem
  rw [honly, Finset.mem_singleton] at hmem hlocal
  exact hears.ne (hmem.trans hlocal.symm)

lemma NodeOk.and_then (h : NodeOk (node.emit effects core))
    (hrest : ∀ e ∈ effects', e.isStored = false) :
    NodeOk (node.emit (effects ++ effects') core) := by
  have hframe := h.frame hrest (⟨rfl, rfl, rfl, rfl, rfl, rfl, rfl⟩ : SameStored core core)
  rwa [Node.emit_emit] at hframe

lemma isStored_sendToPeers (c : ConsensusCore) (message : RaftMessage) :
    ∀ e ∈ c.sendToPeers message, e.isStored = false := by
  intro e he
  obtain ⟨peer, -, rfl⟩ := mem_map.mp he
  rfl

lemma isStored_buildReplicationForPeer (c : ConsensusCore) (peer : CellIdentity) (round : ℕ) :
    (c.buildReplicationForPeer peer round).isStored = false := by
  unfold buildReplicationForPeer
  dsimp only
  split
  · split <;> rfl
  · rfl

lemma isStored_sweep (c : ConsensusCore) :
    ∀ e ∈ c.sweepConfirmedQuorumRounds.2, e.isStored = false := by
  intro e he
  obtain ⟨round, -, he⟩ := mem_flatMap.mp he
  obtain ⟨readId, -, rfl⟩ := mem_map.mp he
  rfl

lemma NodeOk.move (h : NodeOk node) (hlocal : node.core.localId ∈ node.core.roster.cells)
    (hwire : ∀ sender message, input = .receiveMessage sender message → message.WireOk)
    (hmove : Move input node.core effects core) : NodeOk (node.emit effects core) := by
  have hkeep : SameStored node.core node.core := ⟨rfl, rfl, rfl, rfl, rfl, rfl, rfl⟩
  cases hmove with
  | quiet hstate hquiet =>
    exact h.frame (fun e he => (hquiet e he).not_stored) (.of_protocol hstate)
  | adopt => exact h.persist (fun _ => by omega) ⟨rfl, rfl, rfl, rfl, rfl, rfl, rfl⟩
  | campaign =>
    change NodeOk (node.emit ([_] ++ _) _)
    refine NodeOk.and_then (h.persist ?_ ?_) (isStored_sendToPeers _ _)
    · exact fun _ => Nat.le_add_left 1 _
    · exact ⟨rfl, rfl, rfl, rfl, rfl, rfl, rfl⟩
  | vote hears =>
    refine NodeOk.and_then (h.persist ?_ ⟨rfl, rfl, rfl, rfl, rfl, rfl, rfl⟩)
      (by simp [voteResponse, ConsensusEffect.isStored])
    exact fun hone => absurd hone (hears.len_ne_one hlocal)
  | propose _ _ hlen => exact h.propose hlen rfl (by simp)
  | proposeAlone _ _ hlen hentry =>
    subst hentry
    exact h.proposeAlone hlen rfl (by simp) _
  | commit hrole hlt hle =>
    refine h.advance (fun hone => ?_) hlt hle
    have := (h.durable.sole hone).2
    omega
  | reconcile hears _ hused =>
    exact h.reconcile (hears.len_ne_one hlocal) (hwire _ _ hears.input_eq) hused
  | acknowledge =>
    obtain ⟨rounds, heq⟩ := node.core.acknowledgeRound_eq _ _
    rw [heq]
    exact h.frame (forall_mem_nil _) ⟨rfl, rfl, rfl, rfl, rfl, rfl, rfl⟩
  | sweep => exact h.frame (isStored_sweep _) ⟨rfl, rfl, rfl, rfl, rfl, rfl, rfl⟩
  | install hears _ hcommit =>
    exact NodeOk.and_then (h.install (hears.len_ne_one hlocal) hcommit)
      (by simp [snapshotResponse, ConsensusEffect.isStored])
  | replicate =>
    refine h.frame (fun e he => ?_) hkeep
    rw [mem_singleton.mp he]
    exact isStored_buildReplicationForPeer _ _ _
  | readAlone | covered | alreadyInstalled =>
    exact h.frame (by simp [appendResponse, snapshotResponse, ConsensusEffect.isStored]) hkeep
  | _ => exact h.frame (forall_mem_nil _) ⟨rfl, rfl, rfl, rfl, rfl, rfl, rfl⟩

/-! ## Restarts and local snapshots -/

lemma DurableOk.restartOk (h : DurableOk core durable)
    (hlog : LogOk core) : RestartOk durable := by
  have hsnap : durable.snapshotIndex = core.snapshotIndex := by
    unfold RehydratedCoreState.snapshotIndex snapshotIndex
    rw [h.snapshotMeta]
  have hlast := hlog.lastLogIndex_eq
  have hcommit := hlog.commit_le
  have hnum := hlog.numbered
  rw [firstUncompactedIndex_eq] at hnum
  refine ⟨?_, ?_⟩
  · rw [hsnap, h.logTail]
    exact hnum.map RaftLogEntry.index_stored
  · rw [hsnap, h.logTail, h.commitIndex, length_map]
    omega

lemma rehydrate_eq_ok {roster timing core'}
    (hrestart : rehydrate n roster timing durable = .ok core') :
    core'.localId = n ∧ core'.roster = roster ∧ roster.domainOf n = some core'.localDomain ∧
      core'.snapshotMeta = durable.snapshot.map Prod.fst ∧
      core'.snapshotBytes = durable.snapshot.map Prod.snd ∧ core'.logTail = durable.logTail ∧
      (roster.len ≠ 1 → core'.currentTerm = durable.currentTerm ∧
        core'.votedFor = durable.votedFor ∧ core'.role = .follower ∧
        core'.votesGrantedDomains = ∅ ∧ core'.quorumRounds = ∅ ∧
        core'.commitIndex = max durable.commitIndex durable.snapshotIndex) ∧
      (roster.len = 1 → core'.currentTerm = max durable.currentTerm 1 ∧
        core'.commitIndex = core'.lastLogIndex) := by
  unfold rehydrate at hrestart
  split at hrestart
  · simp at hrestart
  · next fresh hnew =>
    obtain ⟨domain, hdomain, ⟨hlen, rfl⟩ | ⟨hlen, rfl⟩⟩ := new_eq_ok hnew
    · dsimp only [loadLog, genesis] at hrestart
      rw [if_neg hlen] at hrestart
      obtain rfl := Except.ok.inj hrestart
      exact ⟨rfl, rfl, hdomain, rfl, rfl, rfl, fun _ => ⟨rfl, rfl, rfl, rfl, rfl, rfl⟩,
        fun hone => absurd hone hlen⟩
    · dsimp only [loadLog, genesis] at hrestart
      rw [if_pos hlen] at hrestart
      obtain rfl := Except.ok.inj hrestart
      exact ⟨rfl, rfl, hdomain, rfl, rfl, rfl, fun hne => absurd hlen hne, fun _ => ⟨rfl, rfl⟩⟩

lemma NodeOk.restarted {cfg : ClusterConfig} (h : NodeOk node)
    (hroster : node.core.roster = cfg.roster)
    (hrestart : rehydrate n cfg.roster (cfg.timing n) node.durable = .ok core) :
    NodeOk (ClusterConfig.restarted node.durable core) ∧
      core.commitIndex = node.core.commitIndex ∧ core.currentTerm = node.core.currentTerm := by
  obtain ⟨-, hroster', -, hmeta, hbytes, htail, hseveral, halone⟩ := rehydrate_eq_ok hrestart
  have hlog := logOk_rehydrate (h.durable.restartOk h.log) hrestart
  have hmeta' : core.snapshotMeta = node.core.snapshotMeta := hmeta.trans h.durable.snapshotMeta
  have htail' : core.logTail = node.core.reloaded.logTail := htail.trans h.durable.logTail
  have hlast : core.lastLogIndex = node.core.lastLogIndex := by
    rw [← node.core.lastLogIndex_reloaded]
    simp only [lastLogIndex, snapshotIndex, hmeta', htail']
    rfl
  have hsnap : node.durable.snapshotIndex = node.core.snapshotIndex := by
    unfold RehydratedCoreState.snapshotIndex snapshotIndex
    rw [h.durable.snapshotMeta]
  have hcommit : core.commitIndex = node.core.commitIndex := by
    by_cases hlen : cfg.roster.len = 1
    · rw [(halone hlen).2, hlast, (h.durable.sole (hroster ▸ hlen)).2]
    · rw [(hseveral hlen).2.2.2.2.2, h.durable.commitIndex, hsnap]
      exact Nat.max_eq_left h.log.snapshot_le
  have hterm : core.currentTerm = node.core.currentTerm := by
    by_cases hlen : cfg.roster.len = 1
    · rw [(halone hlen).1, (h.durable.sole (hroster ▸ hlen)).1]
    · rw [(hseveral hlen).1, (h.durable.hardState (hroster ▸ hlen)).1]
  refine ⟨⟨hlog, ?_, ?_, rfl, rfl⟩, hcommit, hterm⟩
  · intro e he
    have hloaded : e ∈ node.core.reloaded.logTail := htail' ▸ he
    obtain ⟨kept, hkept, rfl⟩ := mem_map.mp hloaded
    exact (kept.verifyIntegrity_stored).trans (h.intact kept hkept)
  · have hstored : node.durable.logTail = core.logTail.map RaftLogEntry.stored := by
      simp [htail, h.durable.logTail, Function.comp_def]
    refine ⟨hstored, hmeta.symm, hbytes.symm, h.durable.commitIndex.trans hcommit.symm,
      fun hlen => ?_, fun hlen => halone (hroster' ▸ hlen)⟩
    obtain ⟨hterm', hvote, -⟩ := hseveral (hroster' ▸ hlen)
    exact ⟨hterm'.symm, hvote.symm⟩

lemma NodeOk.snapshotted_eq (h : NodeOk node) (happlied : node.applied.index ≠ 0)
    (stateRootDigest : Digest) (snapshotBytes : List UInt8) :
    ClusterConfig.snapshotted node stateRootDigest snapshotBytes =
      { node with
        core := node.core.compacted ⟨node.applied.index, node.applied.term, stateRootDigest⟩
          snapshotBytes
        durable := node.durable.recordSnapshot
          ⟨node.applied.index, node.applied.term, stateRootDigest⟩ snapshotBytes } := by
  have hindex := h.applied.index
  have hsnap := h.log.snapshot_le
  have hnewer : ¬ node.core.snapshotMeta.any (fun existing =>
      node.applied.index < existing.includedIndex) = true := by
    intro hany
    have hlt := (any_snapshotMeta_iff ⟨node.applied.index, node.applied.term,
      stateRootDigest⟩).mp hany
    dsimp only at hlt
    omega
  unfold ClusterConfig.snapshotted recordLocalSnapshot
  dsimp only
  rw [if_neg (by omega), if_neg hnewer]
  simp [compacted]

lemma NodeOk.snapshotted (h : NodeOk node) (happlied : node.applied.index ≠ 0)
    (stateRootDigest : Digest) (snapshotBytes : List UInt8) :
    NodeOk (ClusterConfig.snapshotted node stateRootDigest snapshotBytes) := by
  have hindex := h.applied.index
  have hsnap := h.log.snapshot_le
  rw [h.snapshotted_eq happlied]
  set snapshot : SnapshotMetadata :=
    ⟨node.applied.index, node.applied.term, stateRootDigest⟩ with hsnapshot
  have hincluded : snapshot.includedIndex = node.core.commitIndex := hindex
  obtain ⟨hcompact, hlast⟩ := h.log.compacted hincluded.le (by omega) snapshotBytes
  refine ⟨hcompact, ?_, ?_, hindex, ?_⟩
  · exact fun e he => h.intact e (mem_of_mem_filter he)
  · refine ⟨?_, rfl, rfl, h.durable.commitIndex, h.durable.hardState, fun hlen => ?_⟩
    · change node.durable.logTail.filter _ = (node.core.logTail.filter _).map _
      rw [h.durable.logTail, filter_map_stored fun i => decide (snapshot.includedIndex < i)]
    · exact ⟨(h.durable.sole hlen).1, (h.durable.sole hlen).2.trans hlast.symm⟩
  · -- the boundary of the new snapshot is the last applied entry
    change node.applied.term = (termAt (node.core.compacted snapshot snapshotBytes)
      node.core.commitIndex).getD 0
    rw [← hincluded]
    simp [termAt, compacted, hsnapshot, happlied]

lemma buildReplicationForPeer_cases (c : ConsensusCore) (peer : CellIdentity) (round : ℕ)
    (hbytes : c.snapshotMeta.isSome = c.snapshotBytes.isSome) :
    (∃ next, next = max (c.nextIndex[peer]?.getD (c.lastLogIndex + 1)) 1 ∧ c.snapshotIndex < next ∧
      c.buildReplicationForPeer peer round = .sendMessage peer
        (.appendEntries c.currentTerm c.localId (next - 1) ((c.termAt (next - 1)).getD 0)
          (c.collectRange next c.lastLogIndex) c.commitIndex round)) ∨
    (∃ m bytes offset chunk done, c.snapshotMeta = some m ∧ c.snapshotBytes = some bytes ∧
      c.buildReplicationForPeer peer round = .sendMessage peer
        (.installSnapshotChunk c.currentTerm c.localId m.includedIndex m.includedTerm
          m.stateRootDigest
          (computeSnapshotTransferSha256 m.includedIndex m.includedTerm m.stateRootDigest bytes)
          bytes.length offset chunk done)) := by
  unfold buildReplicationForPeer
  dsimp only
  split
  · next m bytes hmeta hsome =>
    split
    · exact .inr ⟨m, bytes, _, _, _, hmeta, hsome, rfl⟩
    · next hnext =>
      refine .inl ⟨_, rfl, ?_, rfl⟩
      have hindex : c.snapshotIndex = m.includedIndex := by simp [snapshotIndex, hmeta]
      omega
  · next hnone =>
    refine .inl ⟨_, rfl, ?_, rfl⟩
    have hmeta : c.snapshotMeta = none := by
      cases hm : c.snapshotMeta with
      | none => rfl
      | some m =>
        have hsome : c.snapshotBytes.isSome = true := by rw [← hbytes, hm]; rfl
        obtain ⟨bytes, hsome⟩ := Option.isSome_iff_exists.mp hsome
        exact absurd hsome (hnone m bytes hm)
    simp only [snapshotIndex, hmeta]
    exact lt_of_lt_of_le Nat.zero_lt_one (Nat.le_max_right _ _)

lemma DurableOk.isSome_snapshotBytes
    (h : DurableOk core durable) : core.snapshotMeta.isSome = core.snapshotBytes.isSome := by
  rw [← h.snapshotMeta, ← h.snapshotBytes]
  simp

lemma wireOk_buildReplicationForPeer {c} (hlog : LogOk c)
    (hintact : ∀ e ∈ c.logTail, e.verifyIntegrity = true)
    (hbytes : c.snapshotMeta.isSome = c.snapshotBytes.isSome) {peer round}
    (h : c.buildReplicationForPeer peer round = .sendMessage target message) : message.WireOk := by
  rcases buildReplicationForPeer_cases c peer round hbytes with
    ⟨next, -, hnext, heq⟩ | ⟨m, bytes, offset, chunk, done, -, -, heq⟩
  · rw [heq] at h
    obtain ⟨-, rfl⟩ := ConsensusEffect.sendMessage.inj h
    refine ⟨?_, fun e he => hintact e (mem_of_mem_collectRange he)⟩
    rw [Nat.sub_add_cancel (by omega)]
    rcases Nat.lt_or_ge (c.lastLogIndex + 1) next with hpast | hwithin
    · rw [collectRange, if_pos (by omega)]
      exact numbered_nil
    · exact (hlog.numbered_collectRange hnext hwithin (le_refl _)).1
  · rw [heq] at h
    obtain ⟨-, rfl⟩ := ConsensusEffect.sendMessage.inj h
    trivial

lemma ConsensusEffect.Quiet.wireOk
    (h : (ConsensusEffect.sendMessage target message).Quiet) : message.WireOk := by
  cases message with
  | appendEntries => cases h
  | _ => trivial

lemma NodeOk.wireOk (h : NodeOk node) (hmove : Move input node.core effects core)
    (hsent : .sendMessage target message ∈ effects) : message.WireOk := by
  cases hmove.sends hsent with
  | quiet hquiet => exact hquiet.wireOk
  | replicate _ _ _ _ hbuild =>
    exact wireOk_buildReplicationForPeer h.log h.intact h.durable.isSome_snapshotBytes hbuild
  | _ => trivial

end

lemma ConsensusCore.Move.identity (h : Move input c effects c') :
    c'.localId = c.localId ∧ c'.roster = c.roster ∧ c'.localDomain = c.localDomain := by
  cases h with
  | quiet hstate =>
    exact ⟨protocol_congr localId (fun _ => rfl) hstate,
      protocol_congr roster (fun _ => rfl) hstate,
      protocol_congr localDomain (fun _ => rfl) hstate⟩
  | acknowledge =>
    obtain ⟨rounds, heq⟩ := c.acknowledgeRound_eq _ _
    rw [heq]
    exact ⟨rfl, rfl, rfl⟩
  | reconcile =>
    obtain ⟨index, -, -, heq⟩ := c.reconcile_fst _ _ _ _
    rw [heq]
    exact ⟨rfl, rfl, rfl⟩
  | _ => exact ⟨rfl, rfl, rfl⟩

structure Placed (cfg : ClusterConfig) (n : CellIdentity) (c : ConsensusCore) : Prop where
  localId : c.localId = n
  roster : c.roster = cfg.roster
  localDomain : n ∈ cfg.roster.cells → cfg.roster.domainOf n = some c.localDomain

structure Cluster.Sound (cfg : ClusterConfig) (cl : Cluster) : Prop where
  placed : ∀ n, Placed cfg n (cl.nodes n).core
  node : ∀ n ∈ cfg.roster.cells, NodeOk (cl.nodes n)
  wire : ∀ envelope ∈ cl.network, envelope.message.WireOk

namespace ClusterConfig

variable {cfg : ClusterConfig} {cl : Cluster}

lemma new_boot (h : n ∈ cfg.roster.cells) :
    new n cfg.roster (cfg.timing n) = .ok (cfg.boot n) := by
  obtain ⟨domain, hdomain⟩ := ValidatedVoterRoster.exists_domainOf h
  have hok : ∃ c, new n cfg.roster (cfg.timing n) = .ok c := by
    unfold new
    simp only [cfg.timing_ok, hdomain]
    split <;> exact ⟨_, rfl⟩
  obtain ⟨c, hc⟩ := hok
  simp only [boot, hc]

/-- With several voters everyone starts as a follower in term zero. -/
lemma boot_eq_genesis (hlen : cfg.roster.len ≠ 1) (n : CellIdentity) :
    ∃ domain, cfg.boot n = genesis n domain cfg.roster (cfg.timing n) := by
  unfold boot
  split
  · next c hc =>
    obtain ⟨domain, -, ⟨-, rfl⟩ | ⟨hone, -⟩⟩ := new_eq_ok hc
    · exact ⟨domain, rfl⟩
    · exact absurd hone hlen
  · exact ⟨0, rfl⟩

lemma placed_boot (cfg : ClusterConfig) (n : CellIdentity) : Placed cfg n (cfg.boot n) := by
  by_cases hmem : n ∈ cfg.roster.cells
  · obtain ⟨domain, hdomain, ⟨-, heq⟩ | ⟨-, heq⟩⟩ := new_eq_ok (new_boot hmem) <;>
      exact heq ▸ ⟨rfl, rfl, fun _ => hdomain⟩
  · unfold boot
    split
    · next c hc =>
      obtain ⟨domain, hdomain, ⟨-, rfl⟩ | ⟨-, rfl⟩⟩ := new_eq_ok hc <;>
        exact ⟨rfl, rfl, fun _ => hdomain⟩
    · exact ⟨rfl, rfl, fun hn => absurd hn hmem⟩

lemma nodeOk_boot (h : n ∈ cfg.roster.cells) : NodeOk ⟨cfg.boot n, .default, ⟨0, 0⟩⟩ := by
  have hlog := logOk_new (new_boot h)
  obtain ⟨domain, -, ⟨hlen, heq⟩ | ⟨hlen, heq⟩⟩ := new_eq_ok (new_boot h)
  · rw [heq] at hlog ⊢
    refine ⟨hlog, by simp [genesis], ?_, rfl, rfl⟩
    exact ⟨rfl, rfl, rfl, rfl, fun _ => ⟨rfl, rfl⟩, fun hone => absurd hone hlen⟩
  · rw [heq] at hlog ⊢
    refine ⟨hlog, by simp [genesis], ?_, rfl, rfl⟩
    exact ⟨rfl, rfl, rfl, rfl, fun hne => absurd hlen hne, fun _ => ⟨rfl, rfl⟩⟩

lemma sound_start (cfg : ClusterConfig) : cfg.start.Sound cfg where
  placed := cfg.placed_boot
  node _ hn := nodeOk_boot hn
  wire := by simp [start]

lemma sound_inductive (cfg : ClusterConfig) : Inductive cfg (Cluster.Sound cfg) where
  move := by
    intro cl n input effects core h hmem hpermitted hmove
    have hplaced := h.placed n
    obtain ⟨hid, hroster, hdomain⟩ := hmove.identity
    refine ⟨?_, ?_, ?_⟩
    · refine forall_emit (P := fun m node => Placed cfg m node.core) h.placed ?_
      exact ⟨hid.trans hplaced.localId, hroster.trans hplaced.roster,
        fun hn => hdomain ▸ hplaced.localDomain hn⟩
    · refine forall_emit (P := fun m node => m ∈ cfg.roster.cells → NodeOk node) h.node ?_
      refine fun hn => (h.node n hn).move ?_ ?_ hmove
      · rw [hplaced.localId, hplaced.roster]
        exact hn
      · rintro sender message rfl
        exact h.wire _ hpermitted
    · intro envelope henvelope
      rcases mem_emit_network.mp henvelope with hold | ⟨-, hsent⟩
      · exact h.wire _ hold
      · exact (h.node n hmem).wireOk hmove hsent
  crash := by
    intro cl n core h hmem hrestart
    obtain ⟨hid, hroster, hdomain, -⟩ := rehydrate_eq_ok hrestart
    refine ⟨?_, ?_, h.wire⟩
    · exact forall_replace (P := fun m node => Placed cfg m node.core) h.placed
        ⟨hid, hroster, fun _ => hdomain⟩
    · exact forall_replace (P := fun m node => m ∈ cfg.roster.cells → NodeOk node) h.node
        fun hn => ((h.node n hn).restarted (h.placed n).roster hrestart).1
  snapshot := by
    intro cl n root bytes h hmem hindex hterm
    refine ⟨?_, ?_, h.wire⟩
    · refine forall_replace (P := fun m node => Placed cfg m node.core) h.placed ?_
      rw [(h.node n hmem).snapshotted_eq hindex]
      exact ⟨(h.placed n).localId, (h.placed n).roster, (h.placed n).localDomain⟩
    · exact forall_replace (P := fun m node => m ∈ cfg.roster.cells → NodeOk node) h.node
        fun hn => (h.node n hn).snapshotted hindex root bytes

/-- The durable state, the log and the state machine of each replica agree in every run. -/
lemma sound_of_run {h} (hrun : cfg.ClusterRun h cl) :
    cl.Sound cfg := cfg.sound_inductive.run cfg.sound_start hrun

end ClusterConfig

end Nlos.Consensus
