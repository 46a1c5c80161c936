import Nlos.Consensus.Election
import Nlos.Consensus.Rounds

/-!
# Rounds of a cluster

Round numbers are new when a read is accepted, so that whoever acknowledges its round does so after
that, in the leader's term.
-/

namespace Nlos.Consensus

open Lib ConsensusCore ClusterConfig

variable {term round : ℕ} {f : CellIdentity}

structure AcceptsRead (e : Event Cluster Action Output) (n : CellIdentity)
    (readId term round : ℕ) : Prop where
  request : ∃ expected, e.input = .requestLinearizableRead n readId expected ∧
    (e.pre.nodes n).core.checkLeaderGate expected = .ok ()
  leads : e.pre.Leads n term
  round_eq : (e.pre.nodes n).core.nextQuorumRoundId = round

namespace Cluster

def Asked (cl : Cluster) (n f : CellIdentity) (term round : ℕ) : Prop :=
  ∃ prevLogIndex prevLogTerm entries leaderCommit,
    ⟨n, f, .appendEntries term n prevLogIndex prevLogTerm entries leaderCommit round⟩ ∈ cl.network

/-- The voter `f` has acknowledged a round to the leader `n`. -/
def Acked (cl : Cluster) (f n : CellIdentity) (term round : ℕ) : Prop :=
  ∃ matchIndex conflictTerm conflictIndex,
    ⟨f, n, .appendEntriesResponse term f true matchIndex conflictTerm conflictIndex round⟩ ∈
      cl.network

lemma Asked.mono {cl cl' : Cluster}
    (h : cl.Asked n f term round) (hsub : cl.network ⊆ cl'.network) : cl'.Asked n f term round := by
  obtain ⟨prevLogIndex, prevLogTerm, entries, leaderCommit, h⟩ := h
  exact ⟨prevLogIndex, prevLogTerm, entries, leaderCommit, hsub h⟩

lemma Acked.mono {cl cl' : Cluster}
    (h : cl.Acked f n term round) (hsub : cl.network ⊆ cl'.network) : cl'.Acked f n term round := by
  obtain ⟨matchIndex, conflictTerm, conflictIndex, h⟩ := h
  exact ⟨matchIndex, conflictTerm, conflictIndex, hsub h⟩

structure ReadRounds (cfg : ClusterConfig) (h : List (Event Cluster Action Output))
    (cl : Cluster) : Prop where
  past : ∀ e ∈ h, ∀ f, (e.pre.nodes f).core.currentTerm ≤ (cl.nodes f).core.currentTerm
  asked : ∀ {n f term round}, cl.Asked n f term round →
    term < (cl.nodes n).core.currentTerm ∨ (term = (cl.nodes n).core.currentTerm ∧
      (cl.nodes n).core.role ≠ .candidate ∧
      ((cl.nodes n).core.role = .leader → round < (cl.nodes n).core.nextQuorumRoundId))
  answered : ∀ {n f term round}, cl.Acked f n term round → cl.Asked n f term round
  acked : ∀ e ∈ h, ∀ {n readId term round f}, AcceptsRead e n readId term round →
    cl.Acked f n term round → (e.pre.nodes f).core.currentTerm ≤ term
  numbered : ∀ n {r : ℕ} {round}, (cl.nodes n).core.quorumRounds[r]? = some round →
    r < (cl.nodes n).core.nextQuorumRoundId
  waiting : ∀ n {r : ℕ} {round}, (cl.nodes n).core.quorumRounds[r]? = some round →
    ∀ readId ∈ round.waitingReadIds, ∃ e ∈ h, AcceptsRead e n readId round.term r
  counted : ∀ n {r : ℕ} {round}, (cl.nodes n).core.quorumRounds[r]? = some round →
    ∀ domain ∈ round.ackedDomains, domain = (cl.nodes n).core.localDomain ∨
      ∃ f, cfg.roster.domainOf f = some domain ∧ cl.Acked f n round.term r

variable {cfg : ClusterConfig} {cl : Cluster} {h : List (Event Cluster Action Output)}
  {n : CellIdentity} {input : ConsensusInput} {effects : List ConsensusEffect}
  {core : ConsensusCore}

/-- The event that is about to happen joins the history. -/
lemma ReadRounds.extend (hr : cl.ReadRounds cfg h) (action : Action) (output : Output) :
    cl.ReadRounds cfg (h ++ [⟨cl, action, output⟩]) where
  past e he f := by
    rcases List.mem_append.mp he with he | he
    · exact hr.past e he f
    · rw [List.mem_singleton.mp he]
  asked := hr.asked
  answered := hr.answered
  acked e he n readId term round f haccepts hacked := by
    rcases List.mem_append.mp he with he | he
    · exact hr.acked e he haccepts hacked
    · -- the number of the round is new, so that nobody was asked about it
      obtain rfl := List.mem_singleton.mp he
      obtain ⟨-, ⟨hrole, rfl⟩, rfl⟩ := haccepts
      rcases hr.asked (hr.answered hacked) with hlt | ⟨-, -, hnext⟩
      · exact absurd hlt (lt_irrefl _)
      · exact absurd (hnext hrole) (lt_irrefl _)
  numbered := hr.numbered
  waiting n r round hround readId hread := by
    obtain ⟨e, he, haccepts⟩ := hr.waiting n hround readId hread
    exact ⟨e, List.mem_append_left _ he, haccepts⟩
  counted := hr.counted

end Cluster

namespace ConsensusCore

variable {input : ConsensusInput} {c c' : ConsensusCore} {effects : List ConsensusEffect}

/-- Within a term a replica campaigns only from the start, and leads only after that. -/
lemma Move.role_step (h : Move input c effects c') (hterm : c'.currentTerm = c.currentTerm) :
    (c'.role = .candidate → c.role = .candidate) ∧
      (c'.role = .leader → c.role = .leader ∨ c.role = .candidate) := by
  cases h with
  | quiet hstate =>
    rw [protocol_congr ConsensusCore.role (fun _ => rfl) hstate]
    exact ⟨id, .inl⟩
  | adopt => simp
  | retire hretired => rcases hretired with rfl | rfl <;> simp
  | campaign => exact absurd hterm (Nat.lt_succ_self _).ne'
  | lead hcandidate => exact ⟨by simp, fun _ => .inr hcandidate⟩
  | reconcile =>
    obtain ⟨index, -, -, heq⟩ := c.reconcile_fst _ _ _ _
    rw [heq]
    exact ⟨id, .inl⟩
  | acknowledge =>
    obtain ⟨rounds, heq⟩ := c.acknowledgeRound_eq _ _
    rw [heq]
    exact ⟨id, .inl⟩
  | _ => exact ⟨id, .inl⟩

lemma Move.sends_entries
    (h : Move input c effects c')
    (hsent : .sendMessage target (.appendEntries term leader prevLogIndex prevLogTerm entries
      leaderCommit round) ∈ effects) :
    c' = c ∧ c.role = .leader ∧ term = c.currentTerm ∧ round < c.nextQuorumRoundId := by
  cases h.sends hsent with
  | quiet hquiet => cases hquiet
  | replicate hsame hrole _ hround hbuild =>
    rcases replication_cases hbuild with ⟨_, _, _, _, heq⟩ | ⟨_, _, _, _, _, _, _, _, heq⟩
    · cases heq
      exact ⟨hsame, hrole, rfl, by omega⟩
    · cases heq

lemma Move.sends_ack {target voter matchIndex conflictIndex conflictTerm}
    (h : Move input c effects c')
    (hsent : .sendMessage target (.appendEntriesResponse term voter true matchIndex conflictTerm
      conflictIndex round) ∈ effects) :
    term = c.currentTerm ∧ ∃ prevLogIndex prevLogTerm entries leaderCommit,
      Hears input c target (.appendEntries c.currentTerm target prevLogIndex prevLogTerm entries
        leaderCommit round) := by
  cases h.sends hsent with
  | quiet hquiet => cases hquiet
  | accept hears => exact ⟨rfl, _, _, _, _, hears⟩
  | replicate _ _ _ _ hbuild =>
    rcases replication_cases hbuild with ⟨_, _, _, _, heq⟩ | ⟨_, _, _, _, _, _, _, _, heq⟩ <;>
      cases heq

end ConsensusCore

namespace Cluster

variable {cfg : ClusterConfig} {cl : Cluster} {h : List (Event Cluster Action Output)}
  {n : CellIdentity} {input : ConsensusInput} {effects : List ConsensusEffect}
  {core : ConsensusCore}

lemma ReadRounds.asked_move (hr : cl.ReadRounds cfg h) (hlog : LogOk (cl.nodes n).core)
    (hmove : Move input (cl.nodes n).core effects core)
    (hasked : (cl.emit n effects core).Asked m f term round) :
    term < ((cl.emit n effects core).nodes m).core.currentTerm ∨
      (term = ((cl.emit n effects core).nodes m).core.currentTerm ∧
        ((cl.emit n effects core).nodes m).core.role ≠ .candidate ∧
        (((cl.emit n effects core).nodes m).core.role = .leader →
          round < ((cl.emit n effects core).nodes m).core.nextQuorumRoundId)) := by
  obtain ⟨prevLogIndex, prevLogTerm, entries, leaderCommit, hmem⟩ := hasked
  rcases mk_mem_emit_network.mp hmem with hold | ⟨rfl, hsent⟩
  · have hbefore := hr.asked ⟨_, _, _, _, hold⟩
    by_cases hm : m = n
    · subst hm
      rw [emit_nodes_self]
      have hterm := (hmove.grows hlog).term
      rcases hbefore with hlt | ⟨rfl, hrole, hnext⟩
      · exact .inl (hlt.trans_le hterm)
      · rcases hterm.lt_or_eq with hlt | hsame
        · exact .inl hlt
        · obtain ⟨hcandidate, hleader⟩ := hmove.role_step hsame.symm
          refine .inr ⟨hsame, fun h => hrole (hcandidate h), fun h => ?_⟩
          exact ((hnext ((hleader h).resolve_right hrole)).trans_le hmove.nextRound_le)
    · rw [emit_nodes_ne hm]
      exact hbefore
  · obtain ⟨rfl, hrole, hterm, hround⟩ := hmove.sends_entries hsent
    rw [emit_nodes_self]
    refine .inr ⟨hterm, fun h => ?_, fun _ => hround⟩
    exact absurd (hrole.symm.trans h) (by decide)

/-- A new acknowledgement answers a message of the leader, and its sender is in that term. -/
lemma Acked.of_emit (hplaced : Placed cfg n (cl.nodes n).core)
    (hpermitted : Permitted cl.network n input)
    (hmove : Move input (cl.nodes n).core effects core)
    (hacked : (cl.emit n effects core).Acked f m term round) : cl.Acked f m term round ∨
      (f = n ∧ term = (cl.nodes n).core.currentTerm ∧ cl.Asked m f term round) := by
  obtain ⟨matchIndex, conflictTerm, conflictIndex, hmem⟩ := hacked
  rcases mk_mem_emit_network.mp hmem with hold | ⟨rfl, hsent⟩
  · exact .inl ⟨_, _, _, hold⟩
  · obtain ⟨rfl, prevLogIndex, prevLogTerm, entries, leaderCommit, hears⟩ :=
      hmove.sends_ack hsent
    obtain ⟨rfl, -, -⟩ := hears
    exact .inr ⟨rfl, rfl, _, _, _, _, hpermitted⟩

lemma ReadRounds.move (hr : cl.ReadRounds cfg h) (hplaced : Placed cfg n (cl.nodes n).core)
    (hlog : LogOk (cl.nodes n).core) (hpermitted : Permitted cl.network n input)
    (hmove : Move input (cl.nodes n).core effects core)
    (hopen : ∀ readId expected, input = .requestLinearizableRead readId expected → ∃ e ∈ h,
      AcceptsRead e n readId (cl.nodes n).core.currentTerm (cl.nodes n).core.nextQuorumRoundId) :
    (cl.emit n effects core).ReadRounds cfg h := by
  have hsub : cl.network ⊆ (cl.emit n effects core).network := List.subset_append_left _ _
  refine ⟨?_, hr.asked_move hlog hmove, ?_, ?_, ?_, ?_, ?_⟩
  · intro e he f
    refine forall_emit (P := fun f node => (e.pre.nodes f).core.currentTerm ≤
      node.core.currentTerm) (hr.past e he) ?_ f
    exact (hr.past e he n).trans (hmove.grows hlog).term
  · intro m f term round hacked
    rcases hacked.of_emit hplaced hpermitted hmove with hold | ⟨-, -, hasked⟩
    · exact (hr.answered hold).mono hsub
    · exact hasked.mono hsub
  · intro e he m readId term round f haccepts hacked
    rcases hacked.of_emit hplaced hpermitted hmove with hold | ⟨rfl, rfl, -⟩
    · exact hr.acked e he haccepts hold
    · exact hr.past e he f
  · refine forall_emit (P := fun _ node => ∀ {r : ℕ} {round},
      node.core.quorumRounds[r]? = some round → r < node.core.nextQuorumRoundId) hr.numbered ?_
    exact hmove.round_lt (hr.numbered n)
  · refine forall_emit (P := fun m node => ∀ {r : ℕ} {round},
      node.core.quorumRounds[r]? = some round → ∀ readId ∈ round.waitingReadIds, ∃ e ∈ h,
        AcceptsRead e m readId round.term r) hr.waiting ?_
    intro r round hround readId hread
    cases hmove.roundFrom hround with
    | kept hold => exact hr.waiting n hold readId hread
    | acknowledged hold => exact hr.waiting n hold readId hread
    | opened hrole heq _ hinput =>
      obtain ⟨expected, heq'⟩ := hinput readId (by simpa using hread)
      exact heq ▸ hopen readId expected heq'
  · refine forall_emit (P := fun m node => ∀ {r : ℕ} {round},
      node.core.quorumRounds[r]? = some round → ∀ domain ∈ round.ackedDomains,
        domain = node.core.localDomain ∨ ∃ f, cfg.roster.domainOf f = some domain ∧
          (cl.emit n effects core).Acked f m round.term r) ?_ ?_
    · intro m r round hround domain hdomain
      refine (hr.counted m hround domain hdomain).imp_right ?_
      exact fun ⟨f, hf, hacked⟩ => ⟨f, hf, hacked.mono hsub⟩
    · intro r round hround domain hdomain
      have hlocal := hmove.identity.2.2
      have hold : ∀ {round'}, (cl.nodes n).core.quorumRounds[r]? = some round' →
          domain ∈ round'.ackedDomains → domain = core.localDomain ∨
            ∃ f, cfg.roster.domainOf f = some domain ∧
              (cl.emit n effects core).Acked f n round'.term r := by
        intro round' hround' hdomain'
        rw [hlocal]
        refine (hr.counted n hround' domain hdomain').imp_right ?_
        exact fun ⟨f, hf, hacked⟩ => ⟨f, hf, hacked.mono hsub⟩
      cases hmove.roundFrom hround with
      | kept hround' => exact hold hround' hdomain
      | acknowledged hround' hterm hears hdomainOf =>
        rcases Finset.mem_insert.mp hdomain with rfl | hdomain
        · refine .inr ⟨_, hplaced.roster ▸ hdomainOf, ?_⟩
          obtain ⟨rfl, -, -⟩ := hears
          exact ⟨_, _, _, hsub (hterm ▸ hpermitted)⟩
        · rcases hold hround' hdomain with hself | hacked
          · exact .inl hself
          · exact .inr hacked
      | opened => exact .inl (hlocal ▸ Finset.mem_singleton.mp hdomain)

/-- Moves other than the start of a read keep the account of the open rounds. -/
lemma ReadRounds.moves (hr : cl.ReadRounds cfg h) (hsound : cl.Sound cfg)
    (hmem : n ∈ cfg.roster.cells) (hpermitted : Permitted cl.network n input)
    (hinput : ∀ readId expected, input ≠ .requestLinearizableRead readId expected)
    (hmoves : Moves input (cl.nodes n).core effects core) :
    (cl.emit n effects core).Sound cfg ∧ (cl.emit n effects core).ReadRounds cfg h := by
  refine hmoves.invariant (P := fun d es => (cl.emit n es d).Sound cfg ∧
    (cl.emit n es d).ReadRounds cfg h) ?_ ?_
  · rw [emit_nil]
    exact ⟨hsound, hr⟩
  · rintro d d' es es' ⟨hd, hrd⟩ hmove
    have hpermitted' := hpermitted.mono (List.subset_append_left cl.network (outgoing n es))
    have hcore : ((cl.emit n es d).nodes n).core = d := by rw [emit_nodes_self]; rfl
    rw [← hcore] at hmove
    rw [← emit_emit]
    refine ⟨cfg.sound_inductive.move hd hmem hpermitted' hmove, ?_⟩
    exact hrd.move (hd.placed n) (hd.node n hmem).log hpermitted' hmove
      fun readId expected heq => absurd heq (hinput readId expected)

lemma ReadRounds.replace (hr : cl.ReadRounds cfg h)
    (hterm : node.core.currentTerm = (cl.nodes n).core.currentTerm)
    (hrounds : (node.core.role = .follower ∧ node.core.quorumRounds = ∅) ∨
      (node.core.role = (cl.nodes n).core.role ∧
        node.core.nextQuorumRoundId = (cl.nodes n).core.nextQuorumRoundId ∧
        node.core.localDomain = (cl.nodes n).core.localDomain ∧
        node.core.quorumRounds = (cl.nodes n).core.quorumRounds)) :
    (cl.replace n node).ReadRounds cfg h := by
  refine ⟨?_, ?_, hr.answered, hr.acked, ?_, ?_, ?_⟩
  · intro e he f
    refine forall_replace (P := fun f node => (e.pre.nodes f).core.currentTerm ≤
      node.core.currentTerm) (hr.past e he) ?_ f
    exact hterm ▸ hr.past e he n
  · intro m f term round hasked
    refine forall_replace (P := fun m node => cl.Asked m f term round →
      term < node.core.currentTerm ∨ (term = node.core.currentTerm ∧ node.core.role ≠ .candidate ∧
        (node.core.role = .leader → round < node.core.nextQuorumRoundId)))
      (fun m hm => hr.asked hm) (fun hn => ?_) m hasked
    rcases hrounds with ⟨hrole, -⟩ | ⟨hrole, hnext, -, -⟩
    · rw [hterm, hrole]
      refine (hr.asked hn).imp_right fun ⟨heq, _⟩ => ⟨heq, by simp, by simp⟩
    · rw [hterm, hrole, hnext]
      exact hr.asked hn
  · refine forall_replace (P := fun _ node => ∀ {r : ℕ} {round},
      node.core.quorumRounds[r]? = some round → r < node.core.nextQuorumRoundId) hr.numbered ?_
    rcases hrounds with ⟨-, hnone⟩ | ⟨-, hnext, -, hsame⟩
    · simp [hnone]
    · rw [hsame, hnext]
      exact hr.numbered n
  · refine forall_replace (P := fun m node => ∀ {r : ℕ} {round},
      node.core.quorumRounds[r]? = some round → ∀ readId ∈ round.waitingReadIds, ∃ e ∈ h,
        AcceptsRead e m readId round.term r) hr.waiting ?_
    rcases hrounds with ⟨-, hnone⟩ | ⟨-, -, -, hsame⟩
    · simp [hnone]
    · rw [hsame]
      exact hr.waiting n
  · refine forall_replace (P := fun m node => ∀ {r : ℕ} {round},
      node.core.quorumRounds[r]? = some round → ∀ domain ∈ round.ackedDomains,
        domain = node.core.localDomain ∨ ∃ f, cfg.roster.domainOf f = some domain ∧
          cl.Acked f m round.term r) hr.counted ?_
    rcases hrounds with ⟨-, hnone⟩ | ⟨-, -, hdomain, hsame⟩
    · simp [hnone]
    · rw [hsame, hdomain]
      exact hr.counted n

end Cluster

namespace ConsensusCore

lemma step_read {c : ConsensusCore} (hlen : c.roster.len ≠ 1) (readId : ℕ) (expected : Option ℕ) :
    (∃ reason, c.step (.requestLinearizableRead readId expected) =
        (c, [.proposalRejected (some readId) reason])) ∨ (c.checkLeaderGate expected = .ok () ∧
        c.step (.requestLinearizableRead readId expected) =
          startRound { c with ticksSinceHeartbeatSent := 0 } (some readId)) := by
  simp only [step, onRequestLinearizableRead]
  split
  · next reason _ => exact .inl ⟨reason, rfl⟩
  · next hgate =>
    rw [if_neg hlen]
    exact .inr ⟨hgate, rfl⟩

lemma not_confirmed_of_read {c : ConsensusCore} (hlen : c.roster.len ≠ 1) (readId : ℕ)
    (expected : Option ℕ) (readId' term readIndex : ℕ) :
    .linearizableReadConfirmed readId' term readIndex ∉
      (c.step (.requestLinearizableRead readId expected)).2 := by
  rcases step_read hlen readId expected with ⟨reason, heq⟩ | ⟨-, heq⟩
  · simp [heq]
  · rw [heq]
    intro hmem
    obtain ⟨peer, -, hbuild⟩ := List.mem_map.mp hmem
    obtain ⟨message, heq', -⟩ := buildReplicationForPeer_eq _ peer _
    rw [heq'] at hbuild
    cases hbuild

end ConsensusCore

namespace Cluster

variable {cfg : ClusterConfig} {cl : Cluster} {h : List (Event Cluster Action Output)}
  {n : CellIdentity}

lemma ReadRounds.read (hr : cl.ReadRounds cfg h) (hsound : cl.Sound cfg)
    (hlen : cfg.roster.len ≠ 1) (hmem : n ∈ cfg.roster.cells)
    {e : Event Cluster Action Output} (he : e ∈ h) (hpre : e.pre = cl)
    (hinput : e.input = .requestLinearizableRead n readId expected) :
    (cl.emit n ((cl.nodes n).core.step (.requestLinearizableRead readId expected)).2
      ((cl.nodes n).core.step (.requestLinearizableRead readId expected)).1).ReadRounds cfg h := by
  rcases step_read ((hsound.placed n).roster ▸ hlen) readId expected with
    ⟨reason, heq⟩ | ⟨hgate, heq⟩
  · have hrefused : Moves .tick (cl.nodes n).core [.proposalRejected (some readId) reason]
      (cl.nodes n).core := moves_reject
    rw [heq]
    exact (hr.moves hsound hmem (by trivial) (by simp) hrefused).2
  · have hrole := role_of_checkLeaderGate hgate
    set c : ConsensusCore := { (cl.nodes n).core with ticksSinceHeartbeatSent := 0 } with hc
    have haccepts : ∀ id expected', ConsensusInput.requestLinearizableRead readId expected =
        .requestLinearizableRead id expected' → ∃ e ∈ h, AcceptsRead e n id c.currentTerm
          c.nextQuorumRoundId := by
      rintro id expected' ⟨⟩
      refine ⟨e, he, ⟨expected, hinput, ?_⟩, ?_, ?_⟩ <;> rw [hpre]
      · exact hgate
      · exact ⟨hrole, rfl⟩
    -- the timer is reset, the round is opened and then sent to every peer
    have hreset : Move (.requestLinearizableRead readId expected) (cl.nodes n).core [] c :=
      .quiet rfl (by simp)
    have hsound₁ := cfg.sound_inductive.move hsound hmem (by trivial) hreset
    have hr₁ := hr.move (hsound.placed n) (hsound.node n hmem).log (by trivial) hreset haccepts
    have hopen : Move (.requestLinearizableRead readId expected)
        ((cl.emit n [] c).nodes n).core [] (c.allocateQuorumRound (some readId)) := by
      rw [emit_nodes_self]
      refine Move.openRound (c := c) hrole ?_
      rintro id ⟨⟩
      exact ⟨expected, rfl⟩
    have hsound₂ := cfg.sound_inductive.move hsound₁ hmem (by trivial) hopen
    have hr₂ := hr₁.move (hsound₁.placed n) (hsound₁.node n hmem).log (by trivial) hopen
      (by rw [emit_nodes_self]; exact haccepts)
    rw [emit_emit] at hsound₂ hr₂
    have hsend : Moves .tick
        ((cl.emit n ([] ++ []) (c.allocateQuorumRound (some readId))).nodes n).core
        (c.startRound (some readId)).2 (c.startRound (some readId)).1 := by
      rw [emit_nodes_self]
      exact moves_sendAll (c := c.allocateQuorumRound (some readId)) hrole rfl _ fun _ h => h
    have hr₃ := (hr₂.moves hsound₂ hmem (by trivial) (by simp) hsend).2
    rw [emit_emit] at hr₃
    rw [heq]
    exact hr₃

end Cluster

namespace ClusterConfig

variable {cfg : ClusterConfig} {cl cl' : Cluster} {h : List (Event Cluster Action Output)}

lemma Action.eq_of_input_read {action : Action}
    (h : action.input cl = some (n, .requestLinearizableRead readId expected)) :
    action = .requestLinearizableRead n readId expected := by
  cases action with
  | requestLinearizableRead =>
    obtain ⟨rfl, heq⟩ := Prod.mk.inj (Option.some.inj h)
    cases heq
    rfl
  | deliver =>
    obtain ⟨envelope, -, heq⟩ := Option.map_eq_some_iff.mp h
    cases (Prod.mk.inj heq).2
  | tick | propose => cases (Prod.mk.inj (Option.some.inj h)).2
  | crash | snapshot => cases h

lemma readRounds_start (hlen : cfg.roster.len ≠ 1) : cfg.start.ReadRounds cfg [] := by
  have hrounds : ∀ n, (cfg.start.nodes n).core.quorumRounds = ∅ := by
    intro n
    obtain ⟨domain, hboot⟩ := boot_eq_genesis hlen n
    simp [start, hboot, genesis]
  refine ⟨by simp, ?_, ?_, by simp, ?_, ?_, ?_⟩
  · rintro n f term round ⟨_, _, _, _, hsent⟩
    simp [start] at hsent
  · rintro n f term round ⟨_, _, _, hsent⟩
    simp [start] at hsent
  · simp [hrounds]
  · simp [hrounds]
  · simp [hrounds]

/-- Every acknowledgement counted in an open round answers a message of that round. -/
lemma readRounds_of_run (hlen : cfg.roster.len ≠ 1) (hrun : cfg.ClusterRun h cl) :
    cl.ReadRounds cfg h := by
  induction hrun with
  | refl => exact readRounds_start hlen
  | @snoc h cl cl' action output hrun hexec ih =>
    have hsound := sound_of_run hrun
    have hr := ih.extend action output
    cases transition_of_exec hexec with
    | @step n input haction hmem hpermitted =>
      by_cases hread : ∃ readId expected, input = .requestLinearizableRead readId expected
      · obtain ⟨readId, expected, rfl⟩ := hread
        exact hr.read hsound hlen hmem (List.mem_append_right _ (.head _)) rfl
          (Action.eq_of_input_read haction)
      · push Not at hread
        exact (hr.moves hsound hmem hpermitted hread (moves_step _ _)).2
    | crash hmem hrestart =>
      obtain ⟨-, -, hterm⟩ :=
        (hsound.node _ hmem).restarted (hsound.placed _).roster hrestart
      obtain ⟨-, -, -, -, -, -, hseveral, -⟩ := rehydrate_eq_ok hrestart
      obtain ⟨-, -, hrole, -, hrounds, -⟩ := hseveral hlen
      exact hr.replace hterm (.inl ⟨hrole, hrounds⟩)
    | snapshot hmem hindex =>
      rw [(hsound.node _ hmem).snapshotted_eq hindex]
      exact hr.replace rfl (.inr ⟨rfl, rfl, rfl, rfl⟩)

end ClusterConfig

end Nlos.Consensus
