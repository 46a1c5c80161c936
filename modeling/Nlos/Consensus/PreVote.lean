import Nlos.Consensus.Election

/-!
# Pre-votes

A replica campaigns only after it has heard grants of a pre-vote for the next term from a quorum,
and it takes over a term only from a message.
-/

namespace Nlos.Consensus

open Lib ConsensusCore List ConsensusEffect

def RaftMessage.term : RaftMessage → Option ℕ
  | .requestPreVote _ _ _ _ => none
  | .requestPreVoteResponse term _ _ _ => some term
  | .requestVote term _ _ _ => some term
  | .requestVoteResponse term _ _ => some term
  | .appendEntries term _ _ _ _ _ _ => some term
  | .appendEntriesResponse term _ _ _ _ _ _ => some term
  | .installSnapshotChunk term _ _ _ _ _ _ _ _ _ => some term
  | .installSnapshotResponse term _ _ _ _ => some term

def RaftMessage.preVote : RaftMessage → Option ℕ
  | .requestPreVoteResponse _ prospectiveTerm _ true => some prospectiveTerm
  | _ => none

namespace ConsensusCore

variable {input : ConsensusInput} {c d : ConsensusCore} {peer target : CellIdentity}
  {term round index lastTerm offset leaderCommit : ℕ} {message : RaftMessage}
  {entries : List RaftLogEntry} {effects : List ConsensusEffect}
  {result : ConsensusCore × List ConsensusEffect} {expected : Option ℕ} {granted : Bool}

/-! ## Steps that do not canvass -/

def canvass (c : ConsensusCore) : ConsensusRole × ℕ × Finset ControlDomainId :=
  (c.role, c.currentTerm, c.preVotesGrantedDomains)

/-- A change that keeps the canvass, or ends in a role that has none, possibly under a term that
was heard; what is sent carries the new term and grants no pre-vote. -/
def Steady (heard : ℕ) (c : ConsensusCore) (result : ConsensusCore × List ConsensusEffect) : Prop :=
  (result.1.canvass = c.canvass ∨ ((result.1.role = .follower ∨ result.1.role = .leader) ∧
    (result.1.currentTerm = c.currentTerm ∨ result.1.currentTerm = heard))) ∧
  ∀ {target message}, .sendMessage target message ∈ result.2 →
    message.term = some result.1.currentTerm ∧ message.preVote = none

def Silent (heard : ℕ) (c : ConsensusCore) (result : ConsensusCore × List ConsensusEffect) : Prop :=
  Steady heard c result ∧ ∀ target message, .sendMessage target message ∉ result.2

lemma Steady.refl : Steady term c (c, []) := ⟨.inl rfl, by simp⟩

lemma currentTerm_eq_of_canvass (h : d.canvass = c.canvass) : d.currentTerm = c.currentTerm :=
  congrArg (·.2.1) h

/-- A silent change first. -/
lemma Steady.after (h : Steady term d result) (hfirst : Silent term c (d, effects)) :
    Steady term c (result.1, effects ++ result.2) := by
  obtain ⟨⟨hstate, -⟩, hsilent⟩ := hfirst
  refine ⟨?_, fun hmem => h.2 ((mem_append.mp hmem).resolve_left (hsilent _ _))⟩
  obtain ⟨hsame | ⟨hrole, hterm⟩, -⟩ := h
  · refine hstate.imp hsame.trans fun ⟨hrole, hterm⟩ => ⟨?_, ?_⟩
    · exact (show result.1.role = d.role from congrArg Prod.fst hsame) ▸ hrole
    · exact currentTerm_eq_of_canvass hsame ▸ hterm
  · refine .inr ⟨hrole, hterm.elim (fun hterm => ?_) .inr⟩
    exact hterm ▸ hstate.elim (fun h => .inl (currentTerm_eq_of_canvass h)) And.right

lemma steady_send (hterm : message.term = some c.currentTerm) (hgrant : message.preVote = none) :
    Steady term c (c, [.sendMessage target message]) := by
  refine ⟨.inl rfl, fun hmem => ?_⟩
  obtain ⟨rfl, rfl⟩ := sendMessage.inj (mem_singleton.mp hmem)
  exact ⟨hterm, hgrant⟩

lemma silent_stepDown : Silent term c (c.stepDownToHigherTerm term) := by
  have hsilent : ∀ target message,
      .sendMessage target message ∉ (c.stepDownToHigherTerm term).2 := by
    intro target message hmem
    simp only [stepDownToHigherTerm, mem_append, mem_map, mem_singleton, reduceCtorEq, false_or,
      and_false, exists_false, or_false] at hmem
    split at hmem <;> simp at hmem
  exact ⟨⟨.inr ⟨.inl rfl, .inr rfl⟩, fun hmem => absurd hmem (hsilent _ _)⟩, hsilent⟩

lemma silent_observeTerm : Silent term c (c.observeTerm term) := by
  unfold observeTerm
  split
  · exact silent_stepDown
  · exact ⟨.refl, by simp⟩

lemma steady_replicate (targets : List CellIdentity) (round : ℕ) :
    Steady term c (c, targets.map fun peer => c.buildReplicationForPeer peer round) := by
  refine ⟨.inl rfl, fun hmem => ?_⟩
  obtain ⟨peer, -, hbuild⟩ := mem_map.mp hmem
  rcases replication_cases hbuild with ⟨_, _, _, _, rfl⟩ | ⟨_, _, _, _, _, _, _, _, rfl⟩ <;>
    exact ⟨rfl, rfl⟩

lemma steady_startRound : Steady term c (c.startRound expected) :=
  steady_replicate (c := c.allocateQuorumRound expected) _ _

lemma steady_startRoundFor : Steady term c (c.startRoundFor peer) :=
  steady_replicate (c := c.allocateQuorumRound none) [peer] _

lemma steady_onRequestVote : Steady term c (c.onRequestVote term peer index lastTerm) := by
  unfold onRequestVote castVote
  dsimp only
  split_ifs
  · exact (steady_send rfl rfl).after silent_observeTerm
  · refine Steady.after ⟨.inl rfl, fun hmem => ?_⟩ silent_observeTerm
    obtain ⟨rfl, rfl⟩ := sendMessage.inj (by simpa [voteResponse] using hmem)
    exact ⟨rfl, rfl⟩
  · exact (steady_send rfl rfl).after silent_observeTerm

lemma steady_onRequestVoteResponse :
    Steady term c (c.onRequestVoteResponse term peer granted) := by
  unfold onRequestVoteResponse
  dsimp only
  split_ifs
  · exact silent_stepDown.1
  · exact .refl
  · exact ⟨.inr ⟨.inr rfl, .inl rfl⟩, (steady_startRound : Steady term _ _).2⟩
  · exact ⟨.inl rfl, by simp⟩

lemma steady_reconcile :
    Steady term c (c.reconcileAndCommitEntries peer entries leaderCommit round) := by
  obtain ⟨_, -, -, heq⟩ := c.reconcile_fst peer entries leaderCommit round
  refine ⟨.inl (heq ▸ rfl), fun hmem => ?_⟩
  rw [reconcile_currentTerm]
  rcases reconcile_effects hmem with ⟨_, h⟩ | ⟨_, h⟩ | ⟨_, _, h⟩ | h | h <;> cases h <;>
    exact ⟨rfl, rfl⟩

lemma steady_checkAndReconcile :
    Steady term c (c.checkAndReconcile peer index lastTerm entries leaderCommit round) := by
  unfold checkAndReconcile
  repeat' split
  all_goals first | exact steady_send rfl rfl | exact steady_reconcile

lemma Steady.following (h : Steady term (c.followLeader peer) result) : Steady term c result := by
  refine ⟨.inr (h.1.elim (fun hsame => ⟨.inl (congrArg Prod.fst hsame), .inl ?_⟩) id), h.2⟩
  exact (currentTerm_eq_of_canvass hsame :)

lemma steady_onAppendEntries :
    Steady term c (c.onAppendEntries term peer index lastTerm entries leaderCommit round) := by
  unfold onAppendEntries
  dsimp only
  split
  · exact (steady_send rfl rfl).after silent_observeTerm
  · exact steady_checkAndReconcile.following.after silent_observeTerm

lemma steady_pipelineTail : Steady term c (c.pipelineTail peer index) := by
  unfold pipelineTail
  split
  · exact steady_startRoundFor
  · exact .refl

lemma silent_tryAdvanceLeaderCommit : Silent term c c.tryAdvanceLeaderCommit := by
  unfold tryAdvanceLeaderCommit advanceCommit
  split <;> exact ⟨⟨.inl rfl, by simp⟩, by simp⟩

lemma silent_acknowledgeAndSweep :
    Silent term c (c.acknowledgeRound peer round).sweepConfirmedQuorumRounds := by
  obtain ⟨rounds, heq⟩ := c.acknowledgeRound_eq peer round
  rw [heq]
  exact ⟨⟨.inl rfl, by simp [sweepConfirmedQuorumRounds]⟩, by simp [sweepConfirmedQuorumRounds]⟩

lemma steady_onAppendEntriesResponse : Steady term c
    (c.onAppendEntriesResponse term peer granted index expected offset round) := by
  unfold onAppendEntriesResponse onAppendSuccess
  dsimp only
  split_ifs
  · exact silent_stepDown.1
  · exact .refl
  · rw [append_assoc]
    exact (steady_pipelineTail.after silent_acknowledgeAndSweep).after (c := c)
      silent_tryAdvanceLeaderCommit
  · exact steady_startRoundFor

lemma steady_resetAndNack : Steady term c (c.resetAndNack peer index) :=
  steady_send (c := { c with inboundSnapshot := none }) rfl rfl

lemma steady_stageChunk :
    Steady term c (c.stageChunk staging offset chunk granted) := by
  unfold stageChunk completeSnapshot resetAndNack
  dsimp only
  split_ifs
  all_goals
    refine ⟨.inl rfl, fun hmem => ?_⟩
    obtain ⟨rfl, rfl⟩ := sendMessage.inj (by simpa [snapshotResponse] using hmem)
    exact ⟨rfl, rfl⟩

lemma steady_onInstallSnapshotChunk :
    Steady term c (c.onInstallSnapshotChunk term peer index lastTerm root sha total offset chunk
      granted) := by
  unfold onInstallSnapshotChunk
  dsimp only
  split
  · exact (steady_send rfl rfl).after silent_observeTerm
  · split
    · exact (steady_send rfl rfl).following.after silent_observeTerm
    · split
      · exact steady_resetAndNack.following.after silent_observeTerm
      · exact steady_stageChunk.following.after silent_observeTerm

lemma steady_onInstallSnapshotResponse :
    Steady term c (c.onInstallSnapshotResponse term peer index offset granted) := by
  unfold onInstallSnapshotResponse
  split_ifs
  · exact silent_stepDown.1
  · exact .refl
  · exact .refl
  · exact steady_pipelineTail.after (c := c) silent_tryAdvanceLeaderCommit
  · exact steady_startRoundFor
  · exact .refl
  · exact steady_startRoundFor

lemma steady_onPropose : Steady term c (c.onPropose proposal expected) := by
  unfold onPropose
  split
  · exact ⟨.inl rfl, by simp⟩
  · dsimp only
    split
    · exact ⟨.inl rfl, by simp⟩
    · change Steady term c (_, [_] ++ _)
      exact steady_startRound.after ⟨⟨.inl rfl, by simp⟩, by simp⟩

lemma steady_onRequestLinearizableRead :
    Steady term c (c.onRequestLinearizableRead index expected) := by
  unfold onRequestLinearizableRead
  split
  · exact ⟨.inl rfl, by simp⟩
  · split
    · exact ⟨.inl rfl, by simp⟩
    · exact steady_startRound

/-- A step is steady, starts to canvass, answers a canvass, or counts a pre-vote and campaigns
with a quorum of them. -/
inductive Ballot (input : ConsensusInput) (c : ConsensusCore) :
    ConsensusCore × List ConsensusEffect → Prop
  | steady {heard : ℕ} {result : ConsensusCore × List ConsensusEffect} :
      (heard = c.currentTerm ∨ ∃ sender message, input = .receiveMessage sender message ∧
        message.term = some heard) → Steady heard c result → Ballot input c result
  | canvass {d : ConsensusCore} {message : RaftMessage} :
      d.canvass = (.preCandidate, c.currentTerm, {c.localDomain}) → message.term = none →
      message.preVote = none → Ballot input c (d, d.sendToPeers message)
  | answer {target : CellIdentity} {message : RaftMessage} : message.term = some c.currentTerm →
      (∀ t ∈ message.preVote, c.currentTerm < t) → Ballot input c (c, [.sendMessage target message])
  | count {voter : CellIdentity} {granted : Bool} {message : RaftMessage}
      {domains : Finset ControlDomainId} : c.role = .preCandidate →
      input = .receiveMessage voter message →
      (granted = true → message.preVote = some (c.currentTerm + 1)) →
      domains = c.grantedDomains voter granted c.preVotesGrantedDomains →
      Ballot input c (if c.roster.quorumSize ≤ domains.card then c.startRealElection
        else ({ c with preVotesGrantedDomains := domains }, []))

lemma ballot_of_kept (h : Steady c.currentTerm c result) : Ballot input c result :=
  .steady (.inl rfl) h

lemma ballot_onTick : Ballot input c c.onTick := by
  unfold onTick
  dsimp only
  split_ifs
  · exact ballot_of_kept .refl
  · exact ballot_of_kept steady_startRound
  · exact ballot_of_kept ⟨.inl rfl, by simp⟩
  · exact .canvass rfl rfl rfl
  · exact ballot_of_kept ⟨.inl rfl, by simp⟩

lemma ballot_dispatchMessage (hinput : input = .receiveMessage message.claimedSender message) :
    Ballot input c (c.dispatchMessage message) := by
  have hheard {t result} (ht : message.term = some t) (h : Steady t c result) :
      Ballot input c result := .steady (.inr ⟨_, _, hinput, ht⟩) h
  cases message with
  | requestPreVote =>
    refine .answer rfl fun t ht => ?_
    unfold RaftMessage.preVote at ht
    split at ht
    · next hmessage =>
      obtain ⟨-, rfl, -, hgranted⟩ := RaftMessage.requestPreVoteResponse.inj hmessage
      obtain rfl := Option.some.inj ht
      exact (of_decide_eq_true hgranted).1
    · cases ht
  | requestPreVoteResponse responderTerm prospectiveTerm voter granted =>
    simp only [dispatchMessage, onRequestPreVoteResponse]
    split
    · exact hheard rfl silent_stepDown.1
    · split
      · exact ballot_of_kept .refl
      · next hguard =>
        obtain ⟨hrole, -, rfl⟩ : c.role = .preCandidate ∧ prospectiveTerm =
            c.preVoteProspectiveTerm ∧ prospectiveTerm = c.currentTerm + 1 := by
          simpa [not_or] using hguard
        refine .count hrole hinput (fun hgranted : granted = true => ?_) rfl
        rw [hgranted]
        rfl
  | requestVote => exact hheard rfl steady_onRequestVote
  | requestVoteResponse => exact hheard rfl steady_onRequestVoteResponse
  | appendEntries => exact hheard rfl steady_onAppendEntries
  | appendEntriesResponse => exact hheard rfl steady_onAppendEntriesResponse
  | installSnapshotChunk => exact hheard rfl steady_onInstallSnapshotChunk
  | installSnapshotResponse => exact hheard rfl steady_onInstallSnapshotResponse

/-- What each input may do to the votes and pre-votes of a core. -/
lemma ballot_step (c : ConsensusCore) (input : ConsensusInput) :
    Ballot input c (c.step input) := by
  cases input with
  | tick => exact ballot_onTick
  | propose => exact ballot_of_kept steady_onPropose
  | requestLinearizableRead => exact ballot_of_kept steady_onRequestLinearizableRead
  | receiveMessage =>
    unfold step onMessage
    dsimp only
    split_ifs with _ hclaimed
    · exact ballot_of_kept .refl
    · exact ballot_of_kept .refl
    · exact ballot_dispatchMessage (not_not.mp hclaimed ▸ rfl)

end ConsensusCore

namespace ClusterConfig

section

variable (cfg : ClusterConfig) (h : List (Event Cluster Action Output)) (v n : CellIdentity)
  (term : ℕ)

/-- While its term was below `term`, `v` has granted `n` a pre-vote for it. -/
def Granted : Prop :=
  ∃ e ∈ h, e.output.node = v ∧ (e.pre.nodes v).core.currentTerm < term ∧
    ∃ message, .sendMessage n message ∈ e.output.effects ∧ message.preVote = some term

/-- Such a grant has reached `n`. -/
def PreVoted : Prop :=
  Granted h v n term ∧ ∃ e ∈ h, ∃ message,
    e.input.input e.pre = some (n, .receiveMessage v message) ∧ message.preVote = some term

def Canvassed : Prop :=
  ∃ voters, cfg.roster.IsQuorum voters ∧ ∀ v ∈ voters, v = n ∨ PreVoted h v n term

/-- Somebody has the pre-votes of a quorum for the term, unless it is the first. -/
def Backed : Prop := term = 0 ∨ ∃ n, cfg.Canvassed h n term

structure NodePreVotes (c : ConsensusCore) : Prop where
  counted : c.role = .preCandidate → ∀ domain ∈ c.preVotesGrantedDomains, ∃ v,
    cfg.roster.domainOf v = some domain ∧ (v = n ∨ PreVoted h v n (c.currentTerm + 1))
  canvassed : c.role = .candidate → cfg.Canvassed h n c.currentTerm
  term : cfg.Backed h c.currentTerm

structure MessagePreVotes (message : RaftMessage) : Prop where
  term : ∀ t ∈ message.term, cfg.Backed h t
  granted : ∀ t ∈ message.preVote, Granted h v n t

structure PreVotes (cl : Cluster) : Prop where
  node : ∀ n, NodePreVotes cfg h n (cl.nodes n).core
  wire : ∀ envelope ∈ cl.network, MessagePreVotes cfg h envelope.source envelope.target
    envelope.message

end

variable {cfg : ClusterConfig} {cl : Cluster} {h : List (Event Cluster Action Output)}
  {e : Event Cluster Action Output} {v n : CellIdentity} {t : ℕ} {c d : ConsensusCore}

lemma exists_mem_snoc {p : Event Cluster Action Output → Prop} (hp : ∃ e ∈ h, p e) :
    ∃ e' ∈ h ++ [e], p e' := by
  obtain ⟨e', he', hp⟩ := hp
  exact ⟨e', mem_append_left _ he', hp⟩

lemma PreVoted.snoc (hv : PreVoted h v n t) : PreVoted (h ++ [e]) v n t :=
  ⟨exists_mem_snoc hv.1, exists_mem_snoc hv.2⟩

lemma Canvassed.snoc (hc : cfg.Canvassed h n t) : cfg.Canvassed (h ++ [e]) n t := by
  obtain ⟨voters, hquorum, hall⟩ := hc
  exact ⟨voters, hquorum, fun v hv => (hall v hv).imp id .snoc⟩

lemma Backed.snoc (hb : cfg.Backed h t) : cfg.Backed (h ++ [e]) t :=
  hb.imp id fun ⟨n, hc⟩ => ⟨n, hc.snoc⟩

lemma NodePreVotes.snoc (hn : NodePreVotes cfg h n c) : NodePreVotes cfg (h ++ [e]) n c := by
  refine ⟨fun hrole domain hdomain => ?_, fun hrole => (hn.canvassed hrole).snoc, hn.term.snoc⟩
  obtain ⟨v, hv, hvote⟩ := hn.counted hrole domain hdomain
  exact ⟨v, hv, hvote.imp id .snoc⟩

lemma MessagePreVotes.snoc (hm : MessagePreVotes cfg h v n message) :
    MessagePreVotes cfg (h ++ [e]) v n message :=
  ⟨fun t ht => (hm.term t ht).snoc, fun t ht => exists_mem_snoc (hm.granted t ht)⟩

lemma NodePreVotes.steady (hn : NodePreVotes cfg h n c) (hd : d.canvass = c.canvass ∨
      ((d.role = .follower ∨ d.role = .leader) ∧ cfg.Backed h d.currentTerm)) :
    NodePreVotes cfg h n d := by
  rcases hd with hsame | ⟨hrole, hterm⟩
  · obtain ⟨hrole, hterm, hdomains⟩ : d.role = c.role ∧ d.currentTerm = c.currentTerm ∧
        d.preVotesGrantedDomains = c.preVotesGrantedDomains := by simpa [canvass] using hsame
    obtain ⟨hcounted, hcanvassed, hbacked⟩ := hn
    rw [← hrole, ← hterm] at *
    exact ⟨hdomains ▸ hcounted, hcanvassed, hbacked⟩
  · exact ⟨fun h => by simp [h] at hrole, fun h => by simp [h] at hrole, hterm⟩

lemma PreVotes.replace {node} (hp : PreVotes cfg h cl)
    (hnode : node.core.canvass = (cl.nodes n).core.canvass ∨
      ((node.core.role = .follower ∨ node.core.role = .leader) ∧
        cfg.Backed h node.core.currentTerm)) : PreVotes cfg (h ++ [e]) (cl.replace n node) :=
  ⟨forall_replace (P := fun m node => NodePreVotes cfg _ m node.core)
    (fun m => (hp.node m).snoc) ((hp.node n).steady hnode).snoc,
    fun envelope henvelope => (hp.wire envelope henvelope).snoc⟩

lemma PreVotes.ballot (hp : PreVotes cfg h cl)
    (hplaced : Placed cfg n (cl.nodes n).core) (hlen : cfg.roster.len ≠ 1)
    (hmem : n ∈ cfg.roster.cells) (hpermitted : Permitted cl.network n input)
    (hinput : action.input cl = some (n, input))
    (hballot : Ballot input (cl.nodes n).core result) :
    let h' := h ++ [⟨cl, action, ⟨n, result.2⟩⟩]
    NodePreVotes cfg h' n result.1 ∧ ∀ target message, .sendMessage target message ∈ result.2 →
      MessagePreVotes cfg h' n target message := by
  intro h'
  have hn : NodePreVotes cfg h' n (cl.nodes n).core := (hp.node n).snoc
  cases hballot with
  | steady hheard hsteady =>
    obtain ⟨hstate, hsent⟩ := hsteady
    have hnode : NodePreVotes cfg h' n result.1 := by
      refine hn.steady (hstate.imp id fun ⟨hrole, hterm⟩ => ⟨hrole, ?_⟩)
      rcases hterm with hterm | hterm <;> rw [hterm]
      · exact hn.term
      · rcases hheard with rfl | ⟨sender, message, rfl, hmessage⟩
        · exact hn.term
        · exact ((hp.wire _ hpermitted).term _ hmessage).snoc
    refine ⟨hnode, fun target message hmem => ?_⟩
    obtain ⟨hterm, hnone⟩ := hsent hmem
    exact ⟨by simp [hterm, hnode.term], by simp [hnone]⟩
  | @canvass d message hcanvass hterm hnone =>
    obtain ⟨hrole, hsame, hdomains⟩ : d.role = .preCandidate ∧ d.currentTerm =
        (cl.nodes n).core.currentTerm ∧ d.preVotesGrantedDomains =
          {(cl.nodes n).core.localDomain} := by simpa [ConsensusCore.canvass] using hcanvass
    refine ⟨⟨fun _ domain hdomain => ?_, by simp [hrole], hsame ▸ hn.term⟩, ?_⟩
    · rw [hdomains, Finset.mem_singleton] at hdomain
      exact ⟨n, hdomain ▸ hplaced.localDomain hmem, .inl rfl⟩
    · intro target message hsent
      obtain ⟨peer, -, heq⟩ := mem_map.mp hsent
      obtain ⟨rfl, rfl⟩ := sendMessage.inj heq
      exact ⟨by simp [hterm], by simp [hnone]⟩
  | answer hterm hgrant =>
    refine ⟨hn, fun target message hsent => ?_⟩
    obtain ⟨rfl, rfl⟩ := sendMessage.inj (mem_singleton.mp hsent)
    refine ⟨by simp [hterm, hn.term], fun t ht => ?_⟩
    exact ⟨_, mem_append_right _ (mem_singleton_self _), rfl, hgrant t ht, _, hsent, ht⟩
  | @count voter granted message domains hrole hreceived hgranted hdomains =>
    have hcounted : ∀ domain ∈ domains, ∃ v, cfg.roster.domainOf v = some domain ∧
        (v = n ∨ PreVoted h' v n ((cl.nodes n).core.currentTerm + 1)) := by
      intro domain hdomain
      have hold := fun hdomain => hn.counted hrole domain hdomain
      rw [hdomains, grantedDomains] at hdomain
      split at hdomain
      · next domain' hdomain' =>
        split at hdomain
        · next hgrant =>
          rcases Finset.mem_insert.mp hdomain with rfl | hdomain
          · subst hreceived
            have hvote := hgranted hgrant
            refine ⟨voter, hplaced.roster ▸ hdomain', .inr ⟨?_, ?_⟩⟩
            · exact exists_mem_snoc ((hp.wire _ hpermitted).granted _ hvote)
            · exact ⟨_, mem_append_right _ (mem_singleton_self _), message, hinput, hvote⟩
          · exact hold hdomain
        · exact hold hdomain
      · exact hold hdomain
    revert h'
    split
    · next hquorum =>
      intro h' hn hcounted
      have hcanvassed : cfg.Canvassed h' n ((cl.nodes n).core.currentTerm + 1) :=
        Cluster.exists_quorum_of_domains hlen hcounted (hplaced.roster ▸ hquorum)
      refine ⟨⟨nofun, fun _ => hcanvassed, .inr ⟨n, hcanvassed⟩⟩, fun target message hsent => ?_⟩
      obtain ⟨peer, -, heq⟩ := mem_map.mp ((mem_cons.mp hsent).resolve_left nofun)
      obtain ⟨rfl, rfl⟩ := sendMessage.inj heq
      exact ⟨fun t ht => Option.some.inj ht ▸ .inr ⟨n, hcanvassed⟩, nofun⟩
    · intro h' hn hcounted
      exact ⟨⟨fun _ => hcounted, by simp [hrole], hn.term⟩, nofun⟩

/-- What replicas and messages hold of pre-votes was granted in the run. -/
lemma preVotes_of_run (hlen : cfg.roster.len ≠ 1) (hrun : cfg.ClusterRun h cl) :
    PreVotes cfg h cl := by
  induction hrun with
  | refl =>
    refine ⟨fun n => ?_, by simp [start]⟩
    obtain ⟨domain, hboot⟩ := boot_eq_genesis hlen n
    simp only [start, hboot, genesis]
    exact ⟨by simp, by simp, .inl rfl⟩
  | @snoc h cl cl' action output hrun hexec ih =>
    have hsound := cfg.sound_inductive.run cfg.sound_start hrun
    cases transition_of_exec hexec with
    | @step n input hinput hmem hpermitted =>
      obtain ⟨hnode, hsent⟩ := ih.ballot (hsound.placed n) hlen hmem hpermitted hinput
        ((cl.nodes n).core.ballot_step input)
      refine ⟨forall_emit (P := fun m node => NodePreVotes cfg _ m node.core)
        (fun m => (ih.node m).snoc) hnode, fun envelope henvelope => ?_⟩
      rcases mem_emit_network.mp henvelope with hold | ⟨rfl, hnew⟩
      · exact (ih.wire _ hold).snoc
      · exact hsent _ _ hnew
    | @crash n core hmem hrestart =>
      -- a restarted replica follows in the term it had stored
      obtain ⟨-, -, -, -, -, -, hseveral, -⟩ := rehydrate_eq_ok hrestart
      obtain ⟨hterm, -, hrole, -⟩ := hseveral hlen
      have hterm' := ((hsound.node n hmem).durable.hardState ((hsound.placed n).roster ▸ hlen)).1
      exact ih.replace (.inr ⟨.inl hrole, hterm.trans hterm' ▸ (ih.node n).term⟩)
    | @snapshot n root bytes hmem hindex =>
      rw [(hsound.node n hmem).snapshotted_eq hindex]
      exact ih.replace (.inl rfl)

/-- In a run of several voters, a candidate had the pre-votes of a quorum for its term, and so had
some candidate for every term that a replica has reached. -/
theorem term_preVoted_of_run (hvoters : 3 ≤ cfg.roster.len) (hrun : cfg.ClusterRun h cl)
    (n : CellIdentity) :
    ((cl.nodes n).core.role = .candidate → cfg.Canvassed h n (cl.nodes n).core.currentTerm) ∧
      ((cl.nodes n).core.currentTerm = 0 ∨
        ∃ m, cfg.Canvassed h m (cl.nodes n).core.currentTerm) := by
  have hnode := (preVotes_of_run (len_ne_one hvoters) hrun).node n
  exact ⟨hnode.canvassed, hnode.term⟩

/-- The first voter is a candidate in term 1. -/
theorem term_preVoted_firstCandidate :
    ∃ h cl, threeCluster.ClusterRun h cl ∧ (cl.nodes 1).core.role = .candidate ∧
      threeCluster.Canvassed h 1 (cl.nodes 1).core.currentTerm := by
  have hcheck : runCheck threeCluster.exec threeCluster.start (firstElection.take 5)
      (fun _ cl => (cl.nodes 1).core.role = .candidate) = true := by decide +kernel
  obtain ⟨h, cl, hrun, -, hrole⟩ := exists_run_of_runCheck hcheck
  have hrole := of_decide_eq_true hrole
  exact ⟨h, cl, hrun, hrole, (term_preVoted_of_run (by decide) hrun 1).1 hrole⟩

end ClusterConfig

end Nlos.Consensus
