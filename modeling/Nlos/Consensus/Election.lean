import Nlos.Consensus.CommitShape

/-!
# Elections

Votes are read off the network: a voter's vote is the answer that granted it, a candidate's vote for
itself the requests it sent. A replica never votes for two candidates in one term, across restarts
too, since a vote is durable before it is sent.
-/

namespace Nlos.Consensus

open Lib ConsensusCore List ValidatedVoterRoster

def Cluster.Voted (cl : Cluster) (v : CellIdentity) (term : ℕ) (c : CellIdentity) : Prop :=
  ⟨v, c, .requestVoteResponse term v true⟩ ∈ cl.network ∨
    (v = c ∧ ∃ peer index lastTerm, ⟨c, peer, .requestVote term c index lastTerm⟩ ∈ cl.network)

def Cluster.Leads (cl : Cluster) (n : CellIdentity) (term : ℕ) : Prop :=
  (cl.nodes n).core.role = .leader ∧ (cl.nodes n).core.currentTerm = term

instance (cl : Cluster) (n : CellIdentity) (term : ℕ) : Decidable (cl.Leads n term) :=
  inferInstanceAs (Decidable (_ ∧ _))

def Cluster.Elected (cl : Cluster) (cfg : ClusterConfig) (c : CellIdentity) (term : ℕ) : Prop :=
  ∃ voters, cfg.roster.IsQuorum voters ∧ ∀ v ∈ voters, cl.Voted v term c

lemma Cluster.Voted.mono {cl cl' : Cluster}
    (h : cl.Voted v term c) (hsub : cl.network ⊆ cl'.network) : cl'.Voted v term c := by
  rcases h with h | ⟨heq, peer, index, lastTerm, h⟩
  · exact .inl (hsub h)
  · exact .inr ⟨heq, peer, index, lastTerm, hsub h⟩

lemma Cluster.Elected.mono {cl cl' : Cluster} (h : cl.Elected cfg c term)
    (hsub : cl.network ⊆ cl'.network) : cl'.Elected cfg c term := by
  obtain ⟨voters, hquorum, hvoted⟩ := h
  exact ⟨voters, hquorum, fun v hv => (hvoted v hv).mono hsub⟩

/-- Votes are kept in the hard state, no voter has two of them in a term, and what a candidate
has counted are votes for it. -/
structure Cluster.Votes (cfg : ClusterConfig) (cl : Cluster) : Prop where
  kept : ∀ {v term c}, cl.Voted v term c → term ≤ (cl.nodes v).core.currentTerm ∧
    ((cl.nodes v).core.currentTerm = term → (cl.nodes v).core.votedFor = some c)
  unique : ∀ {v term c c'}, cl.Voted v term c → cl.Voted v term c' → c = c'
  counted : ∀ n, (cl.nodes n).core.role = .candidate ∨ (cl.nodes n).core.role = .leader →
    ∀ domain ∈ (cl.nodes n).core.votesGrantedDomains, ∃ v,
      cfg.roster.domainOf v = some domain ∧ cl.Voted v (cl.nodes n).core.currentTerm n
  quorum : ∀ n, (cl.nodes n).core.role = .leader →
    cfg.roster.quorumSize ≤ (cl.nodes n).core.votesGrantedDomains.card

namespace ConsensusCore

variable {input : ConsensusInput} {c c' : ConsensusCore} {effects : List ConsensusEffect}

lemma Move.votedFor_kept (h : Move input c effects c')
    (hterm : c'.currentTerm = c.currentTerm) (hvoted : c.votedFor = some candidate) :
    c'.votedFor = some candidate := by
  cases h with
  | quiet hstate =>
    rw [protocol_congr votedFor (fun _ => rfl) hstate, hvoted]
  | adopt hlt => exact absurd hterm.symm hlt.ne
  | campaign => exact absurd hterm.symm (Nat.lt_succ_self _).ne
  | vote _ hfree =>
    rcases hfree with hnone | hsome
    · rw [hvoted] at hnone
      cases hnone
    · exact hsome ▸ hvoted
  | reconcile =>
    obtain ⟨index, -, -, heq⟩ := c.reconcile_fst _ _ _ _
    rw [heq]
    exact hvoted
  | acknowledge =>
    obtain ⟨rounds, heq⟩ := c.acknowledgeRound_eq _ _
    rw [heq]
    exact hvoted
  | _ => exact hvoted

lemma Move.sends_grant (h : Move input c effects c')
    (hsent : .sendMessage target (.requestVoteResponse term voter true) ∈ effects) :
    c'.currentTerm = term ∧ c'.votedFor = some target := by
  cases h.sends hsent with
  | quiet hquiet => cases hquiet
  | grantVote _ _ _ hterm hvoted => exact ⟨hterm, hvoted⟩
  | replicate _ _ _ _ hbuild =>
    rcases replication_cases hbuild with ⟨_, _, _, _, heq⟩ | ⟨_, _, _, _, _, _, _, _, heq⟩ <;>
      cases heq

lemma Move.sends_request (h : Move input c effects c')
    (hsent : .sendMessage target (.requestVote term candidate index lastTerm) ∈ effects) :
    c'.currentTerm = term ∧ c'.votedFor = some c.localId := by
  cases h.sends hsent with
  | quiet hquiet => cases hquiet
  | requestVote _ hterm hvoted => exact ⟨hterm, hvoted⟩
  | replicate _ _ _ _ hbuild =>
    rcases replication_cases hbuild with ⟨_, _, _, _, heq⟩ | ⟨_, _, _, _, _, _, _, _, heq⟩ <;>
      cases heq

end ConsensusCore

namespace Cluster

variable {cfg : ClusterConfig} {cl : Cluster} {n : CellIdentity} {input : ConsensusInput}
  {effects : List ConsensusEffect} {core : ConsensusCore}

lemma Voted.of_emit (hplaced : Placed cfg n (cl.nodes n).core)
    (hmove : Move input (cl.nodes n).core effects core)
    (h : (cl.emit n effects core).Voted v term c) :
    cl.Voted v term c ∨ (v = n ∧ core.currentTerm = term ∧ core.votedFor = some c) := by
  rcases h with h | ⟨rfl, peer, index, lastTerm, h⟩
  · rcases mk_mem_emit_network.mp h with hold | ⟨rfl, hsent⟩
    · exact .inl (.inl hold)
    · exact .inr ⟨rfl, hmove.sends_grant hsent⟩
  · rcases mk_mem_emit_network.mp h with hold | ⟨rfl, hsent⟩
    · exact .inl (.inr ⟨rfl, peer, index, lastTerm, hold⟩)
    · obtain ⟨hterm, hvoted⟩ := hmove.sends_request hsent
      exact .inr ⟨rfl, hterm, hvoted.trans (congrArg some hplaced.localId)⟩

lemma Votes.kept_move (h : cl.Votes cfg) (hplaced : Placed cfg n (cl.nodes n).core)
    (hlog : LogOk (cl.nodes n).core) (hmove : Move input (cl.nodes n).core effects core)
    (hvoted : (cl.emit n effects core).Voted v term c) :
    term ≤ ((cl.emit n effects core).nodes v).core.currentTerm ∧
      (((cl.emit n effects core).nodes v).core.currentTerm = term →
        ((cl.emit n effects core).nodes v).core.votedFor = some c) := by
  rcases hvoted.of_emit hplaced hmove with hold | ⟨rfl, hterm, hvote⟩
  · obtain ⟨hle, hkept⟩ := h.kept hold
    by_cases hv : v = n
    · subst hv
      rw [emit_nodes_self]
      have hgrows := (hmove.grows hlog).term
      refine ⟨hle.trans hgrows, fun heq => ?_⟩
      have hsame : (cl.nodes v).core.currentTerm = term := Nat.le_antisymm (heq ▸ hgrows) hle
      exact hmove.votedFor_kept (heq.trans hsame.symm) (hkept hsame)
    · rw [emit_nodes_ne hv]
      exact ⟨hle, hkept⟩
  · rw [emit_nodes_self]
    exact ⟨hterm.ge, fun _ => hvote⟩

lemma Votes.unique_move (h : cl.Votes cfg) (hplaced : Placed cfg n (cl.nodes n).core)
    (hlog : LogOk (cl.nodes n).core) (hmove : Move input (cl.nodes n).core effects core)
    (hvoted : (cl.emit n effects core).Voted v term c)
    (hvoted' : (cl.emit n effects core).Voted v term c') : c = c' := by
  -- a new vote is the one in the hard state, where every vote of the current term is
  have hnew : ∀ {c c' : CellIdentity}, (cl.emit n effects core).Voted v term c' →
      v = n → core.currentTerm = term → core.votedFor = some c → c = c' := by
    rintro c c' hother rfl hterm hvote
    have hkept := (h.kept_move hplaced hlog hmove hother).2
    rw [emit_nodes_self] at hkept
    exact Option.some.inj (hvote.symm.trans (hkept hterm))
  rcases hvoted.of_emit hplaced hmove with hold | ⟨hv, hterm, hvote⟩
  · rcases hvoted'.of_emit hplaced hmove with hold' | ⟨hv, hterm, hvote⟩
    · exact h.unique hold hold'
    · exact (hnew hvoted hv hterm hvote).symm
  · exact hnew hvoted' hv hterm hvote

lemma exists_peer (hplaced : Placed cfg n c) (hlen : cfg.roster.len ≠ 1) :
    ∃ peer, peer ∈ c.peers := by
  have hcard : 1 < cfg.roster.cells.card := by
    rw [card_cells]
    have hpos := length_pos_iff.mpr cfg.roster.nonempty
    have hne : cfg.roster.members.length ≠ 1 := hlen
    omega
  obtain ⟨peer, hpeer, hne⟩ := Finset.exists_mem_ne hcard n
  refine ⟨peer, ?_⟩
  simp only [cells, mem_toFinset] at hpeer
  simp only [peers, hplaced.roster, hplaced.localId, mem_filter]
  exact ⟨hpeer, by simpa using hne⟩

lemma Votes.counted_move (h : cl.Votes cfg) (hplaced : Placed cfg n (cl.nodes n).core)
    (hlen : cfg.roster.len ≠ 1) (hmem : n ∈ cfg.roster.cells)
    (hpermitted : Permitted cl.network n input) (hmove : Move input (cl.nodes n).core effects core)
    (hrole : core.role = .candidate ∨ core.role = .leader) :
    ∀ domain ∈ core.votesGrantedDomains, ∃ v, cfg.roster.domainOf v = some domain ∧
      (cl.emit n effects core).Voted v core.currentTerm n := by
  have hsub : cl.network ⊆ (cl.emit n effects core).network := subset_append_left _ _
  -- the votes counted before, for a replica that was a candidate or a leader
  have hold : ∀ term, (cl.nodes n).core.currentTerm = term →
      ((cl.nodes n).core.role = .candidate ∨ (cl.nodes n).core.role = .leader) →
      ∀ domain ∈ (cl.nodes n).core.votesGrantedDomains, ∃ v,
        cfg.roster.domainOf v = some domain ∧ (cl.emit n effects core).Voted v term n := by
    rintro term rfl hcandidate domain hdomain
    obtain ⟨v, hv, hvoted⟩ := h.counted n hcandidate domain hdomain
    exact ⟨v, hv, hvoted.mono hsub⟩
  cases hmove with
  | quiet hstate =>
    rw [protocol_congr role (fun _ => rfl) hstate] at hrole
    rw [protocol_congr votesGrantedDomains (fun _ => rfl) hstate]
    exact hold _ (protocol_congr currentTerm (fun _ => rfl) hstate).symm hrole
  | adopt => simp at hrole
  | retire hretired => rcases hretired with rfl | rfl <;> simp at hrole
  | campaign =>
    intro domain hdomain
    obtain rfl := Finset.mem_singleton.mp hdomain
    -- the vote for itself shows in the requests it sends
    obtain ⟨peer, hpeer⟩ := exists_peer hplaced hlen
    refine ⟨n, hplaced.localDomain hmem, .inr ⟨rfl, peer, (cl.nodes n).core.lastLogIndex,
      (cl.nodes n).core.lastLogTerm, ?_⟩⟩
    refine mem_emit_network.mpr (.inr ⟨rfl, mem_cons_of_mem _ ?_⟩)
    rw [hplaced.localId]
    exact mem_map_of_mem hpeer
  | countVote hcandidate hears hdomainOf =>
    intro domain hdomain
    rcases Finset.mem_insert.mp hdomain with rfl | hdomain
    · refine ⟨_, hplaced.roster ▸ hdomainOf, .inl (hsub ?_)⟩
      obtain ⟨rfl, -, -⟩ := hears
      exact hpermitted
    · exact hold _ rfl (.inl hcandidate) domain hdomain
  | lead hcandidate => exact hold _ rfl (.inl hcandidate)
  | reconcile =>
    obtain ⟨index, -, -, heq⟩ := (cl.nodes n).core.reconcile_fst _ _ _ _
    rw [heq] at hrole hold ⊢
    exact hold _ rfl hrole
  | acknowledge =>
    obtain ⟨rounds, heq⟩ := (cl.nodes n).core.acknowledgeRound_eq _ _
    rw [heq] at hrole hold ⊢
    exact hold _ rfl hrole
  | _ => exact hold _ rfl hrole

lemma Votes.quorum_move (h : cl.Votes cfg) (hplaced : Placed cfg n (cl.nodes n).core)
    (hmove : Move input (cl.nodes n).core effects core) (hrole : core.role = .leader) :
    cfg.roster.quorumSize ≤ core.votesGrantedDomains.card := by
  have hold := h.quorum n
  cases hmove with
  | quiet hstate =>
    rw [protocol_congr role (fun _ => rfl) hstate] at hrole
    rw [protocol_congr votesGrantedDomains (fun _ => rfl) hstate]
    exact hold hrole
  | retire hretired => rcases hretired with rfl | rfl <;> simp at hrole
  | lead _ hquorum => exact hplaced.roster ▸ hquorum
  | reconcile =>
    obtain ⟨index, -, -, heq⟩ := (cl.nodes n).core.reconcile_fst _ _ _ _
    rw [heq] at hrole ⊢
    exact hold hrole
  | acknowledge =>
    obtain ⟨rounds, heq⟩ := (cl.nodes n).core.acknowledgeRound_eq _ _
    rw [heq] at hrole ⊢
    exact hold hrole
  | countVote hcandidate => simp [hcandidate] at hrole
  | adopt | campaign => simp at hrole
  | _ => exact hold hrole

lemma Votes.replace (h : cl.Votes cfg)
    (hterm : node.core.currentTerm = (cl.nodes n).core.currentTerm)
    (hvote : node.core.votedFor = (cl.nodes n).core.votedFor)
    (hrole : node.core.role = .follower ∨ (node.core.role = (cl.nodes n).core.role ∧
      node.core.votesGrantedDomains = (cl.nodes n).core.votesGrantedDomains)) :
    (cl.replace n node).Votes cfg := by
  refine ⟨fun {v term c} hvoted => ?_, fun hvoted hvoted' => h.unique hvoted hvoted', ?_, ?_⟩
  · refine forall_replace (P := fun m node => cl.Voted m term c → term ≤ node.core.currentTerm ∧
      (node.core.currentTerm = term → node.core.votedFor = some c)) (fun m hm => h.kept hm) ?_ v
      hvoted
    rw [hterm, hvote]
    exact h.kept
  · refine forall_replace (P := fun m node => node.core.role = .candidate ∨
      node.core.role = .leader → ∀ domain ∈ node.core.votesGrantedDomains, ∃ v,
        cfg.roster.domainOf v = some domain ∧ cl.Voted v node.core.currentTerm m) h.counted ?_
    intro hactive
    rcases hrole with hfollower | ⟨hrole, hdomains⟩
    · simp [hfollower] at hactive
    · rw [hterm, hdomains]
      exact h.counted n (hrole ▸ hactive)
  · refine forall_replace (P := fun _ node => node.core.role = .leader →
      cfg.roster.quorumSize ≤ node.core.votesGrantedDomains.card) h.quorum ?_
    intro hleader
    rcases hrole with hfollower | ⟨hrole, hdomains⟩
    · simp [hfollower] at hleader
    · rw [hdomains]
      exact h.quorum n (hrole ▸ hleader)

end Cluster

namespace ClusterConfig

variable {cfg : ClusterConfig} {cl cl' : Cluster}

lemma votes_start (hlen : cfg.roster.len ≠ 1) : cfg.start.Votes cfg := by
  have hnone : ∀ {v term c}, ¬ cfg.start.Voted v term c := by
    rintro v term c (h | ⟨-, peer, index, lastTerm, h⟩) <;> simp [start] at h
  have hfollower : ∀ n, (cfg.start.nodes n).core.role = .follower := by
    intro n
    obtain ⟨domain, hboot⟩ := boot_eq_genesis hlen n
    simp [start, hboot, genesis]
  refine ⟨fun h => absurd h hnone, fun h => absurd h hnone, fun n hn => ?_, fun n hn => ?_⟩
  · simp [hfollower n] at hn
  · simp [hfollower n] at hn

lemma votes_inductive (hlen : cfg.roster.len ≠ 1) :
    Inductive cfg (fun cl => cl.Sound cfg ∧ cl.Votes cfg) where
  move := by
    rintro cl n input effects core ⟨hsound, h⟩ hmem hpermitted hmove
    refine ⟨cfg.sound_inductive.move hsound hmem hpermitted hmove, ?_⟩
    have hplaced := hsound.placed n
    have hlog := (hsound.node n hmem).log
    refine ⟨h.kept_move hplaced hlog hmove, h.unique_move hplaced hlog hmove, ?_, ?_⟩
    · refine forall_emit (P := fun m node => node.core.role = .candidate ∨
        node.core.role = .leader → ∀ domain ∈ node.core.votesGrantedDomains, ∃ v,
          cfg.roster.domainOf v = some domain ∧
            (cl.emit n effects core).Voted v node.core.currentTerm m) ?_
        (h.counted_move hplaced hlen hmem hpermitted hmove)
      intro m hactive domain hdomain
      obtain ⟨v, hv, hvoted⟩ := h.counted m hactive domain hdomain
      exact ⟨v, hv, hvoted.mono (subset_append_left _ _)⟩
    · exact forall_emit (P := fun _ node => node.core.role = .leader →
        cfg.roster.quorumSize ≤ node.core.votesGrantedDomains.card) h.quorum
        (h.quorum_move hplaced hmove)
  crash := by
    rintro cl n core ⟨hsound, h⟩ hmem hrestart
    refine ⟨cfg.sound_inductive.crash hsound hmem hrestart, ?_⟩
    have hnode := hsound.node n hmem
    have hroster := (hsound.placed n).roster
    obtain ⟨-, -, -, -, -, -, hseveral, -⟩ := rehydrate_eq_ok hrestart
    obtain ⟨hterm, hvote, hrole, -⟩ := hseveral hlen
    obtain ⟨hterm', hvote'⟩ := hnode.durable.hardState (hroster ▸ hlen)
    exact h.replace (hterm.trans hterm') (hvote.trans hvote') (.inl hrole)
  snapshot := by
    rintro cl n root bytes ⟨hsound, h⟩ hmem hindex hterm
    refine ⟨cfg.sound_inductive.snapshot hsound hmem hindex hterm, ?_⟩
    rw [(hsound.node n hmem).snapshotted_eq hindex]
    exact h.replace rfl rfl (.inr ⟨rfl, rfl⟩)

/-- In every run the replicas are sound and no voter has two votes in a term. -/
lemma votes_of_run (hlen : cfg.roster.len ≠ 1)
    (hrun : cfg.ClusterRun h cl) : cl.Sound cfg ∧ cl.Votes cfg :=
  (votes_inductive hlen).run ⟨cfg.sound_start, votes_start hlen⟩ hrun

end ClusterConfig

namespace Cluster

variable {cfg : ClusterConfig} {cl : Cluster} {n n' : CellIdentity} {term : ℕ}

lemma exists_quorum_of_domains {P : CellIdentity → Prop} (hlen : cfg.roster.len ≠ 1)
    {domains : Finset ControlDomainId}
    (hdomains : ∀ domain ∈ domains, ∃ v, cfg.roster.domainOf v = some domain ∧ P v)
    (hquorum : cfg.roster.quorumSize ≤ domains.card) :
    ∃ voters, cfg.roster.IsQuorum voters ∧ ∀ v ∈ voters, P v := by
  have hseveral : 1 < cfg.roster.members.length := by
    have hpos := length_pos_iff.mpr cfg.roster.nonempty
    have hne : cfg.roster.members.length ≠ 1 := hlen
    omega
  refine ⟨cfg.roster.votersOf domains, ?_, fun v hv => ?_⟩
  · refine isQuorum_votersOf hseveral (fun domain hdomain => ?_) hquorum
    obtain ⟨v, hv, -⟩ := hdomains domain hdomain
    obtain ⟨m, hm, -, heq⟩ := domainOf_eq_some_iff.mp hv
    exact ⟨m, hm, heq⟩
  · -- the domain of a voter names that voter alone
    obtain ⟨m, hm, rfl, hdomain⟩ := mem_votersOf.mp hv
    obtain ⟨v, hv, hP⟩ := hdomains _ hdomain
    obtain ⟨m', hm', rfl, heq⟩ := domainOf_eq_some_iff.mp hv
    have hsame : m' = m :=
      inj_on_of_nodup_map (cfg.roster.domains_nodup hseveral) hm' hm heq
    exact hsame ▸ hP

lemma Leads.elected (h : cl.Leads n term) (hvotes : cl.Votes cfg) (hlen : cfg.roster.len ≠ 1) :
    cl.Elected cfg n term := by
  obtain ⟨hrole, rfl⟩ := h
  exact exists_quorum_of_domains hlen (hvotes.counted n (.inr hrole)) (hvotes.quorum n hrole)

lemma Elected.unique (hvotes : cl.Votes cfg) (h : cl.Elected cfg n term)
    (h' : cl.Elected cfg n' term) : n = n' := by
  obtain ⟨Q, hQ, hvoted⟩ := h
  obtain ⟨Q', hQ', hvoted'⟩ := h'
  obtain ⟨v, hv, hv'⟩ := hQ.exists_common hQ'
  exact hvotes.unique (hvoted v hv) (hvoted' v hv')

end Cluster

namespace ClusterConfig

variable {cfg : ClusterConfig} {cl cl' : Cluster} {h : List (Event Cluster Action Output)}

/-- Messages that were sent stay deliverable. -/
lemma network_subset_of_run (hrun : Run cfg.exec cl h cl') : cl.network ⊆ cl'.network := by
  refine hrun.invariant (P := fun x => cl.network ⊆ x.network) (List.Subset.refl _) ?_
  intro x y action output hsub hexec
  cases transition_of_exec hexec with
  | step => exact List.Subset.trans hsub (subset_append_left _ _)
  | crash | snapshot => exact hsub

lemma len_ne_one (hvoters : 3 ≤ cfg.roster.len) : cfg.roster.len ≠ 1 := by omega

/-- In a run of several voters, at most one of them ever leads a term. -/
theorem leads_subsingleton_of_run (hvoters : 3 ≤ cfg.roster.len) (hrun : cfg.ClusterRun h cl)
    (term : ℕ) : {n | ∃ x ∈ states h cl, x.Leads n term}.Subsingleton := by
  have hlen := len_ne_one hvoters
  -- whoever led the term at some time counts as elected at the end
  have helected : ∀ {n x}, x ∈ states h cl → x.Leads n term → cl.Elected cfg n term := by
    intro n x hx hleads
    obtain ⟨h₁, h₂, -, hrun₁, hrun₂⟩ := hrun.split_at hx
    exact (hleads.elected (votes_of_run hlen hrun₁).2 hlen).mono (network_subset_of_run hrun₂)
  rintro n ⟨x, hx, hleads⟩ n' ⟨x', hx', hleads'⟩
  exact (helected hx hleads).unique (votes_of_run hlen hrun).2 (helected hx' hleads')

def threeCluster : ClusterConfig where
  roster := ⟨[⟨1, 1⟩, ⟨2, 2⟩, ⟨3, 3⟩], by decide, by decide, by decide, by decide⟩
  timing _ := ⟨1, 2, 3, 64⟩
  timing_ok _ := rfl

/-- The first voter times out, passes the pre-vote and is elected by the second. -/
def firstElection : List Action :=
  [.tick 1, .tick 1, .tick 1, .deliver 0, .deliver 2, .deliver 3, .deliver 5]

theorem leads_subsingleton_firstElection :
    ∃ h cl, threeCluster.ClusterRun h cl ∧ h.map Event.input = firstElection ∧ cl.Leads 1 1 ∧
      {n | ∃ x ∈ states h cl, x.Leads n 1}.Subsingleton := by
  have hcheck : runCheck threeCluster.exec threeCluster.start firstElection
      (fun _ cl => cl.Leads 1 1) = true := by decide +kernel
  obtain ⟨h, cl, hrun, hinputs, hleads⟩ := exists_run_of_runCheck hcheck
  exact ⟨h, cl, hrun, hinputs, of_decide_eq_true hleads,
    leads_subsingleton_of_run (by decide) hrun 1⟩

lemma exists_rehydrate (hmem : n ∈ cfg.roster.cells) (durable : RehydratedCoreState) :
    ∃ core, rehydrate n cfg.roster (cfg.timing n) durable = .ok core := by
  unfold rehydrate
  rw [new_boot hmem]
  dsimp only
  split <;> exact ⟨_, rfl⟩

lemma sameStored_rehydrate (h : NodeOk node) (hroster : node.core.roster = cfg.roster)
    (hlen : cfg.roster.len ≠ 1)
    (hrestart : rehydrate n cfg.roster (cfg.timing n) node.durable = .ok core) :
    SameStored node.core.reloaded core := by
  obtain ⟨-, hcommit, hterm⟩ := h.restarted hroster hrestart
  obtain ⟨-, hroster', -, hmeta, hbytes, htail, hseveral, -⟩ := rehydrate_eq_ok hrestart
  have hvote := (hseveral hlen).2.1.trans (h.durable.hardState (hroster ▸ hlen)).2
  exact ⟨hroster'.trans hroster.symm, hterm, hvote, hmeta.trans h.durable.snapshotMeta,
    hbytes.trans h.durable.snapshotBytes, htail.trans h.durable.logTail, hcommit⟩

/-- At every point of a run a voter of several can crash: it restarts with the log that the store
reloads, the snapshot and the hard state that it had, and has applied as much as before. -/
theorem crash_restores_of_run (hvoters : 3 ≤ cfg.roster.len) (hrun : cfg.ClusterRun h cl)
    {n : CellIdentity} (hmem : n ∈ cfg.roster.cells) :
    ∃ cl', cfg.exec cl (.crash n) = .ok (cl', ⟨n, []⟩) ∧
      SameStored (cl.nodes n).core.reloaded (cl'.nodes n).core ∧
      (cl'.nodes n).applied = (cl.nodes n).applied := by
  have hsound := sound_of_run hrun
  have hnode := hsound.node n hmem
  obtain ⟨core, hcore⟩ := exists_rehydrate hmem (cl.nodes n).durable
  have hsame := sameStored_rehydrate hnode (hsound.placed n).roster (len_ne_one hvoters) hcore
  refine ⟨cl.replace n (restarted (cl.nodes n).durable core), ?_, ?_⟩
  · simp only [exec, if_pos hmem, hcore]
  · obtain ⟨hindex, hat⟩ := hnode.applied
    rw [replace_nodes_self]
    refine ⟨hsame, ?_⟩
    have hcommit : core.commitIndex = (cl.nodes n).core.commitIndex := hsame.commitIndex
    rw [restarted, hsame.termAt, termAt_reloaded, hcommit, ← hat, ← hindex]

theorem crash_restores_firstElection :
    ∃ h cl cl', threeCluster.ClusterRun h cl ∧ h.map Event.input = firstElection ∧
      threeCluster.exec cl (.crash 1) = .ok (cl', ⟨1, []⟩) ∧
      SameStored (cl.nodes 1).core.reloaded (cl'.nodes 1).core ∧
      (cl'.nodes 1).applied = (cl.nodes 1).applied := by
  have hcheck : runCheck threeCluster.exec threeCluster.start firstElection
      (fun _ _ => true) = true := by decide +kernel
  obtain ⟨h, cl, hrun, hinputs, -⟩ := exists_run_of_runCheck hcheck
  obtain ⟨cl', hcrash⟩ := crash_restores_of_run (by decide) hrun (n := 1) (by decide)
  exact ⟨h, cl, cl', hrun, hinputs, hcrash⟩

end ClusterConfig

end Nlos.Consensus
