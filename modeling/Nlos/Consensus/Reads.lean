import Nlos.Consensus.ReadRounds

/-!
# Linearizable reads

An acknowledgement of the round of a read was sent after the read was accepted, by a voter that was
still in the leader's term; a later leader would have needed the vote of one of them before.
-/

namespace Nlos.Consensus

open Lib ConsensusCore ClusterConfig

namespace Cluster

variable {cfg : ClusterConfig} {cl : Cluster} {h : List (Event Cluster Action Output)}
  {n : CellIdentity} {input : ConsensusInput} {effects : List ConsensusEffect}
  {core : ConsensusCore}

lemma ReadRounds.elected_le (hr : cl.ReadRounds cfg h) (hlen : cfg.roster.len ≠ 1)
    (hmem : n ∈ cfg.roster.cells) (hplaced : Placed cfg n (cl.nodes n).core) {r readId round}
    (hround : (cl.nodes n).core.quorumRounds[r]? = some round)
    (hquorum : cfg.roster.quorumSize ≤ round.ackedDomains.card)
    {e} (he : e ∈ h) (haccepts : AcceptsRead e n readId round.term r)
    (hvotes : e.pre.Votes cfg) {leader term}
    (helected : e.pre.Elected cfg leader term) : term ≤ round.term := by
  -- each domain that acknowledged is that of a voter whose term was not above the read's
  have hvoter : ∀ domain ∈ round.ackedDomains, ∃ f, cfg.roster.domainOf f = some domain ∧
      (e.pre.nodes f).core.currentTerm ≤ round.term := by
    intro domain hdomain
    rcases hr.counted n hround domain hdomain with rfl | ⟨f, hf, hacked⟩
    · exact ⟨n, hplaced.localDomain hmem, haccepts.leads.2.le⟩
    · exact ⟨f, hf, hr.acked e he haccepts hacked⟩
  obtain ⟨Q, hQ, hQterm⟩ := exists_quorum_of_domains hlen hvoter hquorum
  obtain ⟨Q', hQ', hvoted⟩ := helected
  obtain ⟨v, hv, hv'⟩ := hQ.exists_common hQ'
  exact (hvotes.kept (hvoted v hv')).1.trans (hQterm v hv)

/-- A read confirmed on the way from `p` to `d`: the round opened for it when it was accepted was
in the table of `p` and is closed in `d`, and nobody was elected in a later term by then. -/
def ConfirmsRead (cfg : ClusterConfig) (h : List (Event Cluster Action Output)) (n : CellIdentity)
    (p d : ConsensusCore) (readId term : ℕ) : Prop :=
  ∃ e ∈ h, ∃ (r : ℕ) (round : PendingQuorumRound), AcceptsRead e n readId term r ∧
    p.quorumRounds[r]? = some round ∧ readId ∈ round.waitingReadIds ∧
    d.quorumRounds[r]? = none ∧ r < d.nextQuorumRoundId ∧
    ∀ leader later, e.pre.Elected cfg leader later → later ≤ term

def WaitedBefore (p d : ConsensusCore) : Prop :=
  ∀ {r : ℕ} {round}, d.quorumRounds[r]? = some round → ∀ readId ∈ round.waitingReadIds,
    ∃ round', p.quorumRounds[r]? = some round' ∧ readId ∈ round'.waitingReadIds

lemma ReadRounds.confirmsRead_move {p readId term readIndex}
    (hr : cl.ReadRounds cfg h) (hlen : cfg.roster.len ≠ 1) (hmem : n ∈ cfg.roster.cells)
    (hplaced : Placed cfg n (cl.nodes n).core) (hvotes : ∀ e ∈ h, e.pre.Votes cfg)
    (hwaited : WaitedBefore p (cl.nodes n).core) (hmove : Move input (cl.nodes n).core effects core)
    (hconfirmed : .linearizableReadConfirmed readId term readIndex ∈ effects) :
    ConfirmsRead cfg h n p core readId term := by
  obtain ⟨rfl, r, round, hround, hread, hacked, hclosed, hnext⟩ :=
    hmove.confirms (hplaced.roster ▸ hlen) hconfirmed
  obtain ⟨hterm, hquorum⟩ : round.term = (cl.nodes n).core.currentTerm ∧
      (cl.nodes n).core.roster.quorumSize ≤ round.ackedDomains.card := by
    simpa [roundAcknowledged] using hacked
  rw [hplaced.roster] at hquorum
  obtain ⟨e, he, haccepts⟩ := hr.waiting n hround readId hread
  obtain ⟨round', hround', hread'⟩ := hwaited hround readId hread
  refine ⟨e, he, r, round', hterm ▸ haccepts, hround', hread', hclosed, ?_, ?_⟩
  · rw [hnext]
    exact hr.numbered n hround
  · intro leader later helected
    rw [← hterm]
    exact hr.elected_le hlen hmem hplaced hround hquorum he haccepts (hvotes e he) helected

/-- A read is confirmed only from the round opened when it was accepted. -/
lemma ReadRounds.confirmsRead_moves (hr : cl.ReadRounds cfg h) (hsound : cl.Sound cfg)
    (hlen : cfg.roster.len ≠ 1) (hmem : n ∈ cfg.roster.cells)
    (hpermitted : Permitted cl.network n input) (hvotes : ∀ e ∈ h, e.pre.Votes cfg)
    (hinput : ∀ readId expected, input ≠ .requestLinearizableRead readId expected)
    (hmoves : Moves input (cl.nodes n).core effects core)
    (hconfirmed : .linearizableReadConfirmed readId term readIndex ∈ effects) :
    ConfirmsRead cfg h n (cl.nodes n).core core readId term := by
  set p := (cl.nodes n).core with hp
  have hall : (Moves input p effects core ∧ WaitedBefore p core) ∧
      ∀ readId term readIndex, .linearizableReadConfirmed readId term readIndex ∈ effects →
        ConfirmsRead cfg h n p core readId term := by
    refine hmoves.invariant (P := fun d es => (Moves input p es d ∧ WaitedBefore p d) ∧
      ∀ readId term readIndex, .linearizableReadConfirmed readId term readIndex ∈ es →
        ConfirmsRead cfg h n p d readId term) ?_ ?_
    · exact ⟨⟨.refl, fun hround readId hread => ⟨_, hround, hread⟩⟩, by simp⟩
    · rintro d d' es es' ⟨⟨hbefore, hwaited⟩, hreads⟩ hmove
      obtain ⟨hsound', hr'⟩ := hr.moves hsound hmem hpermitted hinput hbefore
      refine ⟨⟨hbefore.snoc hmove, fun {r round} hround id hid => ?_⟩, ?_⟩
      · cases hmove.roundFrom hround with
        | kept hold | acknowledged hold => exact hwaited hold id hid
        | opened _ _ _ hread =>
          obtain ⟨expected, heq⟩ := hread id (by simpa using hid)
          exact absurd heq (hinput id expected)
      · intro id term' index hmem'
        rcases List.mem_append.mp hmem' with hold | hnew
        · obtain ⟨e, he, r, round, haccepts, hround, hid, hclosed, hlt, hfresh⟩ :=
            hreads id term' index hold
          exact ⟨e, he, r, round, haccepts, hround, hid, hmove.round_closed hclosed hlt,
            hlt.trans_le hmove.nextRound_le, hfresh⟩
        · have hcore : ((cl.emit n es d).nodes n).core = d := by rw [emit_nodes_self]; rfl
          rw [← hcore] at hmove hwaited
          exact hr'.confirmsRead_move hlen hmem (hsound'.placed n) hvotes hwaited hmove hnew
  exact hall.2 readId term readIndex hconfirmed

end Cluster

namespace ClusterConfig

variable {cfg : ClusterConfig} {cl cl' : Cluster} {h : List (Event Cluster Action Output)}
  {action : Action} {output : Output}

lemma votes_of_mem_run (hlen : cfg.roster.len ≠ 1) (hrun : cfg.ClusterRun h cl)
    (he : e ∈ h) : e.pre.Votes cfg := by
  obtain ⟨h₁, h₂, rfl⟩ := List.append_of_mem he
  exact (votes_of_run hlen hrun.split.1).2

/-- A read that a replica confirms in a term was accepted by it earlier in that term, in the
round that the confirmation closes; up to that moment nobody had led a later term. -/
theorem read_fresh_of_run (hvoters : 3 ≤ cfg.roster.len) (hrun : cfg.ClusterRun h cl)
    (hexec : cfg.exec cl action = .ok (cl', output)) {readId term readIndex : ℕ}
    (hconfirmed : .linearizableReadConfirmed readId term readIndex ∈ output.effects) :
    ∃ h₁ e h₂ round pending, h = h₁ ++ e :: h₂ ∧ AcceptsRead e output.node readId term round ∧
      (cl.nodes output.node).core.quorumRounds[round]? = some pending ∧
      readId ∈ pending.waitingReadIds ∧ (cl'.nodes output.node).core.quorumRounds[round]? = none ∧
      ∀ x ∈ states h₁ e.pre, ∀ leader later, x.Leads leader later → later ≤ term := by
  have hlen := len_ne_one hvoters
  have hsound := sound_of_run hrun
  cases transition_of_exec hexec with
  | crash | snapshot => simp at hconfirmed
  | @step n input haction hmem hpermitted =>
    by_cases hread : ∃ readId expected, input = .requestLinearizableRead readId expected
    · -- accepting a read confirms nothing
      obtain ⟨readId', expected, rfl⟩ := hread
      have hnone := not_confirmed_of_read ((hsound.placed n).roster ▸ hlen) readId' expected
      exact absurd hconfirmed (hnone readId term readIndex)
    · push Not at hread
      obtain ⟨e, he, r, pending, haccepts, hround, hid, hclosed, -, hfresh⟩ :=
        (readRounds_of_run hlen hrun).confirmsRead_moves hsound hlen hmem hpermitted
          (fun e he => votes_of_mem_run hlen hrun he) hread (moves_step _ _) hconfirmed
      obtain ⟨h₁, h₂, rfl⟩ := List.append_of_mem he
      refine ⟨h₁, e, h₂, r, pending, rfl, haccepts, hround, hid, ?_, ?_⟩
      · rw [emit_nodes_self]
        exact hclosed
      · intro x hx leader later hleads
        obtain ⟨g₁, g₂, -, hrun₁, hrun₂⟩ := hrun.split.1.split_at hx
        exact hfresh leader later
          ((hleads.elected (votes_of_run hlen hrun₁).2 hlen).mono (network_subset_of_run hrun₂))

def firstRead : List Action :=
  firstElection ++ [.requestLinearizableRead 1 7 none, .deliver 8]

/-- The acknowledgement confirms the read. -/
theorem read_fresh_firstRead :
    ∃ h cl cl' output, threeCluster.ClusterRun h cl ∧ h.map Event.input = firstRead ∧
      threeCluster.exec cl (.deliver 10) = .ok (cl', output) ∧
      .linearizableReadConfirmed 7 1 0 ∈ output.effects ∧
      ∃ h₁ e h₂ round pending, h = h₁ ++ e :: h₂ ∧ AcceptsRead e output.node 7 1 round ∧
        (cl.nodes output.node).core.quorumRounds[round]? = some pending ∧
        7 ∈ pending.waitingReadIds ∧ (cl'.nodes output.node).core.quorumRounds[round]? = none ∧
        ∀ x ∈ states h₁ e.pre, ∀ leader later, x.Leads leader later → later ≤ 1 := by
  have hcheck : runCheck threeCluster.exec threeCluster.start firstRead (fun _ cl =>
      match threeCluster.exec cl (.deliver 10) with
      | .ok (_, output) => .linearizableReadConfirmed 7 1 0 ∈ output.effects
      | .error _ => false) = true := by decide +kernel
  obtain ⟨h, cl, hrun, hinputs, hlast⟩ := exists_run_of_runCheck hcheck
  split at hlast
  · next cl' output hexec =>
    have hconfirmed := of_decide_eq_true hlast
    exact ⟨h, cl, cl', output, hrun, hinputs, hexec, hconfirmed,
      read_fresh_of_run (by decide) hrun hexec hconfirmed⟩
  · simp at hlast

end ClusterConfig

end Nlos.Consensus
