import Nlos.Consensus.Election
import Nlos.Consensus.RaftWire

/-!
# Which messages of a replica can be delivered

The only messages of a replica that fail to be decoded are those beyond the limits of the wire, and
a leader sends such a message to every follower that lags by more than 4096 entries.
-/

namespace Nlos.Consensus

open Lib List ConsensusCore RaftLogEntry

namespace ConsensusCore

variable {c c' : ConsensusCore} {input : ConsensusInput} {effects : List ConsensusEffect}

def LogIntact (c : ConsensusCore) : Prop := ∀ e ∈ c.logTail, e.verifyIntegrity = true

lemma intact_spliceEntry {base commitIndex logTail entry}
    (htail : ∀ e ∈ logTail, e.verifyIntegrity = true) (hentry : entry.verifyIntegrity = true) :
    ∀ e ∈ (spliceEntry base commitIndex logTail entry).logTail, e.verifyIntegrity = true := by
  unfold spliceEntry
  dsimp only
  repeat' split
  all_goals simp only [mem_append, mem_singleton]
  all_goals first
    | exact htail
    | rintro e (he | rfl)
      · first | exact htail e he | exact htail e (mem_of_mem_take he)
      · exact hentry

lemma intact_spliceEntries {base commitIndex logTail entries}
    (htail : ∀ e ∈ logTail, e.verifyIntegrity = true) :
    ∀ e ∈ (spliceEntries base commitIndex logTail entries).logTail, e.verifyIntegrity = true := by
  induction entries generalizing logTail with
  | nil => exact htail
  | cons entry rest ih =>
    unfold spliceEntries
    split
    · next hentry => exact ih (intact_spliceEntry htail hentry)
    · exact htail

lemma LogIntact.append (h : c.LogIntact) (hentry : entry.verifyIntegrity = true) :
    ∀ e ∈ c.logTail ++ [entry], e.verifyIntegrity = true := by
  intro e he
  rcases mem_append.mp he with he | he
  · exact h e he
  · rwa [mem_singleton.mp he]

lemma LogIntact.move (h : c.LogIntact) (hmove : Move input c effects c') : c'.LogIntact := by
  cases hmove with
  | quiet hstate =>
    have htail := protocol_congr logTail (fun _ => rfl) hstate
    intro e he
    exact h e (htail ▸ he)
  | propose => exact h.append (verifyIntegrity_new ..)
  | proposeAlone _ _ _ hentry =>
    subst hentry
    exact h.append (verifyIntegrity_new ..)
  | reconcile =>
    obtain ⟨index, -, -, heq⟩ := c.reconcile_fst _ _ _ _
    rw [heq]
    exact intact_spliceEntries h
  | acknowledge =>
    obtain ⟨rounds, heq⟩ := c.acknowledgeRound_eq _ _
    rw [heq]
    exact h
  | install =>
    intro e he
    simp only [installSnapshot] at he
    split at he
    · exact h e (mem_of_mem_filter he)
    · cases he
  | _ => exact h

lemma logEntries_replication {peer target round m}
    (h : c.buildReplicationForPeer peer round = .sendMessage target m) :
    ∀ e ∈ m.logEntries, e ∈ c.logTail := by
  unfold buildReplicationForPeer at h
  dsimp only at h
  repeat' split at h
  all_goals obtain ⟨-, rfl⟩ := ConsensusEffect.sendMessage.inj h
  · intro e he
    cases he
  all_goals
    intro e he
    exact mem_of_mem_collectRange he

lemma Move.logEntries_mem {target m}
    (hmove : Move input c effects c') (hsent : .sendMessage target m ∈ effects) :
    ∀ e ∈ m.logEntries, e ∈ c.logTail := by
  cases hmove.sends hsent with
  | quiet hquiet =>
    cases m with
    | appendEntries => exact hquiet.elim
    | _ =>
      intro e he
      cases he
  | replicate _ _ _ _ hbuild => exact logEntries_replication hbuild
  | _ =>
    intro e he
    cases he

/-- A core with an intact log keeps it intact and sends only intact entries. -/
lemma LogIntact.step (h : c.LogIntact) (input : ConsensusInput) :
    (c.step input).1.LogIntact ∧ ∀ target m, .sendMessage target m ∈ (c.step input).2 →
      ∀ e ∈ m.logEntries, e.verifyIntegrity = true := by
  refine (moves_step c input).invariant
    (P := fun d es => d.LogIntact ∧ ∀ target m, .sendMessage target m ∈ es →
      ∀ e ∈ m.logEntries, e.verifyIntegrity = true) ⟨h, by simp⟩ ?_
  rintro d d' es es' ⟨hd, hes⟩ hmove
  refine ⟨hd.move hmove, fun target m hsent e he => ?_⟩
  rcases mem_append.mp hsent with hsent | hsent
  · exact hes target m hsent e he
  · exact hd e (hmove.logEntries_mem hsent e he)

lemma LogIntact.recordLocalSnapshot (h : c.LogIntact) (snapshot : SnapshotMetadata)
    (bytes : List UInt8) (compactUpTo : ℕ) :
    (c.recordLocalSnapshot snapshot bytes compactUpTo).1.LogIntact := by
  unfold ConsensusCore.recordLocalSnapshot
  dsimp only
  repeat' split
  · exact h
  · exact h
  all_goals
    intro e he
    exact h e (mem_of_mem_filter he)

lemma LogIntact.run (hintact : c.LogIntact) (hrun : Run call c h c') :
    c'.LogIntact ∧ ∀ event ∈ h, ∀ target m, .sendMessage target m ∈ event.output →
      ∀ e ∈ m.logEntries, e.verifyIntegrity = true := by
  induction hrun with
  | refl => exact ⟨hintact, by simp⟩
  | @snoc h d d' action out _ hcall ih =>
    obtain ⟨hd, hsent⟩ := ih
    have hlast : d'.LogIntact ∧ ∀ target m, .sendMessage target m ∈ out →
        ∀ e ∈ m.logEntries, e.verifyIntegrity = true := by
      cases action with
      | step input =>
        obtain ⟨rfl, rfl⟩ := Prod.mk.inj (Except.ok.inj hcall)
        exact hd.step input
      | recordLocalSnapshot snapshot bytes compactUpTo =>
        obtain ⟨rfl, rfl⟩ := Prod.mk.inj (Except.ok.inj hcall)
        exact ⟨hd.recordLocalSnapshot snapshot bytes compactUpTo, by simp⟩
    refine ⟨hlast.1, fun event hevent => ?_⟩
    rcases mem_append.mp hevent with hevent | hevent
    · exact hsent event hevent
    · rw [mem_singleton.mp hevent]
      exact hlast.2

end ConsensusCore

def ControlPlaneProposal.Survives (p : ControlPlaneProposal) : Prop :=
  ControlPlaneProposal.decodeCommandBody p.command.familyCode p.idempotencyKey
    p.encodeCommandBody = .ok p

lemma ControlPlaneProposal.survives_iff {p : ControlPlaneProposal} :
    p.Survives ↔ p.onWire = p := by
  rw [ControlPlaneProposal.Survives, decodeCommandBody_encodeCommandBody, Except.ok.injEq]

/-- The fields of a message as the source types them: 64-bit numbers, non-zero identities, and
proposals that survive their own codec. -/
structure RaftMessage.WellTyped (m : RaftMessage) : Prop where
  sender_ne : m.claimedSender ≠ 0
  numbers_lt : ∀ n ∈ m.numbers, n < 256 ^ 8
  entries_lt : ∀ e ∈ m.logEntries, e.index < 256 ^ 8 ∧ e.term < 256 ^ 8
  survives : ∀ e ∈ m.logEntries, e.proposal.Survives

/-- A message that a replica sends in any run is decoded from its frame exactly when it is
within the limits of the wire. The log of a new replica is empty, and the store checks the
digests of the entries it loads. -/
theorem delivered_iff_withinLimits {c c' : ConsensusCore}
    {h : List (Event ConsensusCore ConsensusCore.CoreCall (List ConsensusEffect))}
    (hintact : c.LogIntact) (hrun : Run ConsensusCore.call c h c')
    {event : Event ConsensusCore ConsensusCore.CoreCall (List ConsensusEffect)}
    (hevent : event ∈ h) {target : CellIdentity} {m : RaftMessage}
    (hsent : .sendMessage target m ∈ event.output) (htyped : m.WellTyped) :
    (∃ bytes, encodeRaftMessage m = some bytes ∧ decodeRaftMessage bytes = .ok m) ↔
      m.WithinLimits := by
  refine decodeRaftMessage_encodeRaftMessage_iff htyped.sender_ne htyped.numbers_lt
    fun e he => ?_
  exact ⟨(htyped.entries_lt e he).1, (htyped.entries_lt e he).2,
    (hintact.run hrun).2 event hevent target m hsent e he,
    ControlPlaneProposal.survives_iff.mp (htyped.survives e he)⟩

/-! ## A leader whose followers lag -/

namespace ConsensusCore

variable {c : ConsensusCore}

def electionInputs : List CoreCall :=
  [.step .tick, .step .tick, .step .tick,
    .step (.receiveMessage 2 (.requestPreVoteResponse 0 1 2 true)),
    .step (.receiveMessage 2 (.requestVoteResponse 1 2 true))]

/-- What matters of a leader of term one that has heard of no follower's log: it holds the
given number of entries, and its next message to the second voter starts at the first. -/
@[mk_iff]
structure Unheard (c : ConsensusCore) (count : ℕ) : Prop where
  localId : c.localId = 1
  roster : c.roster = ClusterConfig.threeCluster.roster
  role : c.role = .leader
  term : c.currentTerm = 1
  snapshot : c.snapshotMeta = none
  commit : c.commitIndex = 0
  next : c.nextIndex[(2 : CellIdentity)]? = some 1
  round : c.nextQuorumRoundId ≤ count + 2
  log : c.logTail = (List.range count).map fun i => RaftLogEntry.new (i + 1) 1 trustProposal

variable {count : ℕ}

lemma Unheard.lastLogIndex_eq (h : c.Unheard count) : c.lastLogIndex = count := by
  cases count with
  | zero => simp [lastLogIndex, snapshotIndex, h.log, h.snapshot]
  | succ => simp [lastLogIndex, h.log, range_succ, RaftLogEntry.new]

lemma Unheard.collectRange_eq (h : c.Unheard count) : c.collectRange 1 count = c.logTail := by
  unfold collectRange
  split
  · next hlt =>
    obtain rfl : count = 0 := by omega
    simp [h.log]
  · refine filter_eq_self.mpr fun e he => ?_
    rw [h.log] at he
    obtain ⟨i, hi, rfl⟩ := mem_map.mp he
    have hlt := mem_range.mp hi
    exact decide_eq_true ⟨Nat.le_add_left 1 i, hlt⟩

lemma Unheard.replication_eq (h : c.Unheard count) (round : ℕ) :
    c.buildReplicationForPeer 2 round =
      .sendMessage 2 (.appendEntries 1 1 0 0 c.logTail 0 round) := by
  have hterm : c.termAt 0 = some 0 := rfl
  simp [buildReplicationForPeer, h.next, h.snapshot, h.term, h.localId, h.commit,
    h.lastLogIndex_eq, h.collectRange_eq, hterm]

def proposed (c : ConsensusCore) : ConsensusCore :=
  (allocateQuorumRound { c.appendProposal (RaftLogEntry.new (c.lastLogIndex + 1) c.currentTerm
    trustProposal) with ticksSinceHeartbeatSent := 0 } none)

lemma Unheard.proposed (h : c.Unheard count) : c.proposed.Unheard (count + 1) where
  localId := h.localId
  roster := h.roster
  role := h.role
  term := h.term
  snapshot := h.snapshot
  commit := h.commit
  next := by
    have hother : (1 : CellIdentity) ≠ 2 := by decide
    change (c.nextIndex.insert c.localId _)[(2 : CellIdentity)]? = some 1
    rw [h.localId, Table.getElem?_insert_ne hother, h.next]
  round := Nat.succ_le_succ h.round
  log := by
    change c.logTail ++ [_] = _
    rw [h.log, h.lastLogIndex_eq, h.term, range_succ, map_append]
    rfl

lemma Unheard.step_propose (h : c.Unheard count) :
    (c.step (.propose trustProposal none)).1 = c.proposed ∧
      .sendMessage 2 (.appendEntries 1 1 0 0 c.proposed.logTail 0 c.nextQuorumRoundId) ∈
        (c.step (.propose trustProposal none)).2 := by
  have hgate : c.checkLeaderGate none = .ok () := by simp [checkLeaderGate, h.role]
  have hlen : c.roster.len ≠ 1 := by
    rw [h.roster]
    decide
  have hpeer : (2 : CellIdentity) ∈ c.proposed.peers := by
    simp only [peers, h.proposed.roster, h.proposed.localId]
    decide
  have hstep : c.step (.propose trustProposal none) = (c.proposed,
      .appendLogEntries [RaftLogEntry.new (c.lastLogIndex + 1) c.currentTerm trustProposal] ::
        c.proposed.broadcastReplicationOrHeartbeat c.nextQuorumRoundId) := by
    simp only [step, onPropose, hgate]
    exact if_neg hlen
  rw [hstep]
  refine ⟨rfl, mem_cons_of_mem _ (mem_map.mpr ⟨2, hpeer, ?_⟩)⟩
  exact h.proposed.replication_eq _

/-- Proposals pile up as long as no follower answers. -/
lemma Unheard.run (hstart : start.Unheard 0) (count : ℕ) :
    ∃ h c, Run call start h c ∧ c.Unheard count := by
  induction count with
  | zero => exact ⟨[], start, .refl, hstart⟩
  | succ count ih =>
    obtain ⟨h, c, hrun, hc⟩ := ih
    have hcall : c.call (.step (.propose trustProposal none)) =
        .ok (c.proposed, (c.step (.propose trustProposal none)).2) :=
      congrArg Except.ok (Prod.ext hc.step_propose.1 rfl)
    exact ⟨_, c.proposed, hrun.snoc hcall, hc.proposed⟩

instance (count : ℕ) : Decidable (c.Unheard count) :=
  decidable_of_iff _ (unheard_iff c count).symm

/-- The whole log of such a leader is well typed, whatever its length below the bound of the
index type. -/
lemma Unheard.wellTyped {round} (h : c.Unheard count) (hcount : count < 256 ^ 8)
    (hround : round < 256 ^ 8) :
    (RaftMessage.appendEntries 1 1 0 0 c.logTail 0 round).WellTyped := by
  have hentry : ∀ e ∈ c.logTail, ∃ i < count, e = RaftLogEntry.new (i + 1) 1 trustProposal := by
    intro e he
    rw [h.log] at he
    obtain ⟨i, hi, rfl⟩ := mem_map.mp he
    exact ⟨i, mem_range.mp hi, rfl⟩
  constructor
  · exact (by decide : (1 : CellIdentity) ≠ 0)
  · simp only [RaftMessage.numbers, forall_mem_cons, not_mem_nil, false_imp_iff,
      implies_true, and_true]
    omega
  · intro e he
    obtain ⟨i, hi, rfl⟩ := hentry e he
    exact ⟨Nat.lt_of_le_of_lt hi hcount, (by decide : 1 < 256 ^ 8)⟩
  · intro e he
    obtain ⟨i, -, rfl⟩ := hentry e he
    exact ControlPlaneProposal.survives_iff.mpr rfl

lemma exists_replication (hcount : count + 3 < 256 ^ 8) : ∃ start h c event entries round,
      ConsensusCore.new 1 ClusterConfig.threeCluster.roster ⟨1, 2, 3, 64⟩ = .ok start ∧
      Run call start h c ∧ event ∈ h ∧
      .sendMessage 2 (.appendEntries 1 1 0 0 entries 0 round) ∈ event.output ∧
      (RaftMessage.appendEntries 1 1 0 0 entries 0 round).WellTyped ∧
      entries.length = count + 1 := by
  have hcheck : runCheck call (ClusterConfig.threeCluster.boot 1) electionInputs
      (fun _ c => c.Unheard 0) = true := by decide +kernel
  obtain ⟨h, leader, hrun, -, hleads⟩ := exists_run_of_runCheck hcheck
  obtain ⟨h', c, hrun', hc⟩ := (of_decide_eq_true hleads : leader.Unheard 0).run count
  have hcall : c.call (.step (.propose trustProposal none)) =
      .ok (c.step (.propose trustProposal none)) := rfl
  refine ⟨_, _, _, _, c.proposed.logTail, c.nextQuorumRoundId, rfl, (hrun.trans hrun').snoc hcall,
    mem_append_right _ (mem_singleton_self _), hc.step_propose.2,
    hc.proposed.wellTyped (by omega) (Nat.lt_of_le_of_lt hc.round (by omega)), ?_⟩
  rw [hc.proposed.log, length_map, length_range]

end ConsensusCore

/-- The first proposal of the first leader is delivered. -/
theorem delivered_first_proposal : ∃ start h c event m,
      ConsensusCore.new 1 ClusterConfig.threeCluster.roster ⟨1, 2, 3, 64⟩ = .ok start ∧
      Run ConsensusCore.call start h c ∧ event ∈ h ∧ .sendMessage 2 m ∈ event.output ∧
      ∃ bytes, encodeRaftMessage m = some bytes ∧ decodeRaftMessage bytes = .ok m := by
  obtain ⟨start, h, c, event, entries, round, hnew, hrun, hevent, hsent, htyped, hlength⟩ :=
    @ConsensusCore.exists_replication 0 (by decide)
  have hintact : start.LogIntact := by
    intro e he
    obtain rfl : start = ClusterConfig.threeCluster.boot 1 := (Except.ok.inj hnew).symm
    cases he
  refine ⟨start, h, c, event, _, hnew, hrun, hevent, hsent, ?_⟩
  have hlimits : entries.length ≤ 4096 := by omega
  exact (delivered_iff_withinLimits hintact hrun hevent hsent htyped).mpr hlimits

/-- A leader whose follower is more than the limit behind sends it everything at once, and no
receiver decodes that frame. -/
theorem replication_refused : ∃ start h c event m,
      ConsensusCore.new 1 ClusterConfig.threeCluster.roster ⟨1, 2, 3, 64⟩ = .ok start ∧
      Run ConsensusCore.call start h c ∧ event ∈ h ∧ .sendMessage 2 m ∈ event.output ∧ m.WellTyped ∧
      ¬ ∃ bytes, encodeRaftMessage m = some bytes ∧ decodeRaftMessage bytes = .ok m := by
  obtain ⟨start, h, c, event, entries, round, hnew, hrun, hevent, hsent, htyped, hlength⟩ :=
    @ConsensusCore.exists_replication 4096 (by decide)
  refine ⟨start, h, c, event, _, hnew, hrun, hevent, hsent, htyped, ?_⟩
  rintro ⟨bytes, -, hdecode⟩
  have hlimits : entries.length ≤ 4096 :=
    WireReader.yields_readMessage _ _ _ (run_of_decodeRaftMessage hdecode)
  omega

end Nlos.Consensus
