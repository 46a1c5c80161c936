import Nlos.Consensus.CommitShape

/-!
# Acknowledgement rounds

A leader counts acknowledgements in numbered rounds.
-/

namespace Nlos.Consensus

open Lib ConsensusCore

namespace ConsensusCore

variable {input : ConsensusInput} {c c' : ConsensusCore} {effects : List ConsensusEffect}
  {r : ℕ} {round : PendingQuorumRound}

inductive RoundFrom (input : ConsensusInput) (c c' : ConsensusCore) (r : ℕ) :
    PendingQuorumRound → Prop
  | kept {round : PendingQuorumRound} : c.quorumRounds[r]? = some round →
      RoundFrom input c c' r round
  | acknowledged {round : PendingQuorumRound} {peer : CellIdentity} {domain : ControlDomainId}
      {matchIndex conflictIndex : ℕ} {conflictTerm : Option ℕ} :
      c.quorumRounds[r]? = some round → round.term = c.currentTerm →
      Hears input c peer (.appendEntriesResponse c.currentTerm peer true matchIndex conflictTerm
        conflictIndex r) → c.roster.domainOf peer = some domain →
      RoundFrom input c c' r { round with ackedDomains := insert domain round.ackedDomains }
  | opened {readId : Option ℕ} : c.role = .leader → r = c.nextQuorumRoundId →
      c'.nextQuorumRoundId = r + 1 →
      (∀ id ∈ readId, ∃ expected, input = .requestLinearizableRead id expected) →
      RoundFrom input c c' r ⟨c.currentTerm, c.commitIndex, {c.localDomain}, readId.toList⟩

lemma prunedQuorumRounds_getElem? (h : c.prunedQuorumRounds[r]? = some round) :
    c.quorumRounds[r]? = some round := by
  unfold prunedQuorumRounds at h
  split at h
  · split at h
    · rw [Std.ExtTreeMap.getElem?_erase] at h
      split at h
      · simp at h
      · exact h
    · exact h
  · exact h

lemma allocateQuorumRound_getElem?
    (h : (c.allocateQuorumRound readId).quorumRounds[r]? = some round) :
    c.quorumRounds[r]? = some round ∨ (r = c.nextQuorumRoundId ∧
      round = ⟨c.currentTerm, c.commitIndex, {c.localDomain}, readId.toList⟩) := by
  unfold allocateQuorumRound at h
  rw [Table.getElem?_insert_eq] at h
  split at h
  · next heq => exact .inr ⟨heq.symm, (Option.some.inj h).symm⟩
  · exact .inl (prunedQuorumRounds_getElem? h)

lemma sweep_getElem? : c.sweepConfirmedQuorumRounds.1.quorumRounds[r]? = some round ↔
      c.quorumRounds[r]? = some round ∧ c.roundConfirmed round = false := by
  unfold sweepConfirmedQuorumRounds
  dsimp only
  rw [Table.getElem?_foldl_erase]
  refine and_congr_right fun hround => ?_
  simp only [List.mem_filter, Std.ExtTreeMap.mem_toList_iff_getElem?_eq_some, and_imp, Prod.forall]
  constructor
  · intro h
    by_contra hconfirmed
    exact h r round hround (by simpa using hconfirmed) rfl
  · rintro h r' round' hround' hconfirmed rfl
    rw [hround] at hround'
    rw [Option.some.inj hround', hconfirmed] at h
    simp at h

lemma Move.roundFrom (h : Move input c effects c') (hr : c'.quorumRounds[r]? = some round) :
    RoundFrom input c c' r round := by
  cases h with
  | quiet hstate =>
    rw [protocol_congr ConsensusCore.quorumRounds (fun _ => rfl) hstate] at hr
    exact .kept hr
  | adopt | campaign => simp at hr
  | openRound hrole hread =>
    rcases allocateQuorumRound_getElem? hr with hold | ⟨rfl, rfl⟩
    · exact .kept hold
    · exact .opened hrole rfl rfl hread
  | reconcile =>
    obtain ⟨index, -, -, heq⟩ := c.reconcile_fst _ _ _ _
    rw [heq] at hr
    exact .kept hr
  | acknowledge hrole hears =>
    unfold acknowledgeRound at hr
    split at hr
    · next domain round' hdomain hround =>
      split at hr
      · next hterm =>
        rw [Table.getElem?_insert_eq] at hr
        split at hr
        · next heq =>
          subst heq
          obtain rfl := Option.some.inj hr
          exact .acknowledged hround hterm hears hdomain
        · exact .kept hr
      · exact .kept hr
    · exact .kept hr
  | sweep => exact .kept (sweep_getElem?.mp hr).1
  | _ => exact .kept hr

lemma Move.nextRound_le (h : Move input c effects c') :
    c.nextQuorumRoundId ≤ c'.nextQuorumRoundId := by
  cases h with
  | quiet hstate => exact (protocol_congr ConsensusCore.nextQuorumRoundId (fun _ => rfl) hstate).ge
  | openRound => exact Nat.le_succ _
  | reconcile =>
    obtain ⟨index, -, -, heq⟩ := c.reconcile_fst _ _ _ _
    rw [heq]
  | acknowledge =>
    obtain ⟨rounds, heq⟩ := c.acknowledgeRound_eq _ _
    rw [heq]
  | _ => exact le_rfl

lemma Move.round_lt (h : Move input c effects c')
    (hold : ∀ {r round}, c.quorumRounds[r]? = some round → r < c.nextQuorumRoundId)
    (hr : c'.quorumRounds[r]? = some round) : r < c'.nextQuorumRoundId := by
  have hle := h.nextRound_le
  cases h.roundFrom hr with
  | kept hround | acknowledged hround => exact (hold hround).trans_le hle
  | opened => omega

lemma Move.round_closed (h : Move input c effects c') (hclosed : c.quorumRounds[r]? = none)
    (hlt : r < c.nextQuorumRoundId) : c'.quorumRounds[r]? = none := by
  cases hr : c'.quorumRounds[r]? with
  | none => rfl
  | some =>
    cases h.roundFrom hr with
    | kept hround | acknowledged hround =>
      rw [hclosed] at hround
      cases hround
    | opened => omega

lemma Move.confirms (h : Move input c effects c')
    (hlen : c.roster.len ≠ 1)
    (hconfirmed : .linearizableReadConfirmed readId term readIndex ∈ effects) :
    term = c.currentTerm ∧ ∃ (r : ℕ) (round : PendingQuorumRound), c.quorumRounds[r]? = some round ∧
      readId ∈ round.waitingReadIds ∧ c.roundAcknowledged round = true ∧
      c'.quorumRounds[r]? = none ∧ c'.nextQuorumRoundId = c.nextQuorumRoundId := by
  cases h with
  | quiet _ hquiet => cases hquiet _ hconfirmed
  | readAlone hone => exact absurd hone hlen
  | campaign =>
    rcases List.mem_cons.mp hconfirmed with heq | hsent
    · cases heq
    · obtain ⟨peer, -, heq⟩ := List.mem_map.mp hsent
      cases heq
  | replicate =>
    obtain ⟨message, heq, -⟩ := c.buildReplicationForPeer_eq _ _
    rw [heq] at hconfirmed
    cases List.mem_singleton.mp hconfirmed
  | reconcile =>
    rcases reconcile_effects hconfirmed with
      ⟨_, heq⟩ | ⟨_, heq⟩ | ⟨_, _, heq⟩ | heq | heq <;> cases heq
  | sweep =>
    obtain ⟨⟨r, round⟩, hround, hmap⟩ := List.mem_flatMap.mp hconfirmed
    obtain ⟨id, hid, heq⟩ := List.mem_map.mp hmap
    obtain ⟨rfl, rfl, -⟩ := ConsensusEffect.linearizableReadConfirmed.inj heq
    obtain ⟨hmem, hdone⟩ := List.mem_filter.mp hround
    have hget := Std.ExtTreeMap.mem_toList_iff_getElem?_eq_some.mp hmem
    have hacked : c.roundAcknowledged round = true := by
      unfold roundConfirmed at hdone
      exact (of_decide_eq_true hdone).1
    refine ⟨rfl, r, round, hget, hid, hacked, ?_, rfl⟩
    cases hleft : c.sweepConfirmedQuorumRounds.1.quorumRounds[r]? with
    | none => rfl
    | some =>
      obtain ⟨hget', hopen⟩ := sweep_getElem?.mp hleft
      rw [hget] at hget'
      obtain rfl := Option.some.inj hget'
      rw [hdone] at hopen
      cases hopen
  | _ => simp [voteResponse, appendResponse, snapshotResponse, advanceCommit] at hconfirmed

end ConsensusCore

end Nlos.Consensus
