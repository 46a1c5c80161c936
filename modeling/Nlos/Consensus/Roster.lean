import Nlos.Consensus.Command
import Nlos.Lib.Table

/-!
# The voter roster

A validated roster lists distinct cells, each in a control domain of its own when there is
more than one, and never two. Votes and acknowledgements are counted by control domain, so
that a quorum is a majority of the domains; any two quorums share a voter.
-/

namespace Nlos.Consensus

open Lib List

structure VoterReplica where
  cellIdentity : CellIdentity
  controlDomainId : ControlDomainId
deriving DecidableEq

inductive ConsensusConfigError where
  | emptyVoterSet
  | duplicateCellIdentity (cell : CellIdentity)
  | nonIndependentControlDomain (controlDomainId : ControlDomainId)
      (firstCell secondCell : CellIdentity)
  | unsupportedTwoNodeQuorum
  | localCellNotInRoster (cell : CellIdentity)
  | invalidTimingBounds (heartbeatTicks leaderLeaseTicks electionTimeoutTicks : ℕ)
deriving DecidableEq

structure ValidatedVoterRoster where
  members : List VoterReplica
  nonempty : members ≠ []
  cells_nodup : (members.map VoterReplica.cellIdentity).Nodup
  domains_nodup : 1 < members.length → (members.map VoterReplica.controlDomainId).Nodup
  ne_two : members.length ≠ 2
deriving DecidableEq

/-- The validation loop; `several` is whether there is more than one voter. -/
def checkVoters (several : Bool) (seenCells : Finset CellIdentity)
    (seenDomains : Table ControlDomainId CellIdentity) :
    List VoterReplica → Except ConsensusConfigError Unit
  | [] => .ok ()
  | voter :: rest =>
    if voter.cellIdentity ∈ seenCells then .error (.duplicateCellIdentity voter.cellIdentity)
    else
      match (if several then seenDomains[voter.controlDomainId]? else none) with
      | some firstCell => .error (.nonIndependentControlDomain voter.controlDomainId firstCell
          voter.cellIdentity)
      | none => checkVoters several (insert voter.cellIdentity seenCells)
          (seenDomains.insert voter.controlDomainId voter.cellIdentity) rest

/-- Accepted voters are distinct replicas. -/
lemma cells_nodup_of_checkVoters
    (h : checkVoters several seenCells seenDomains voters = .ok ()) :
    (voters.map VoterReplica.cellIdentity).Nodup ∧ ∀ v ∈ voters, v.cellIdentity ∉ seenCells := by
  induction voters generalizing seenCells seenDomains with
  | nil => simp
  | cons voter rest ih =>
    unfold checkVoters at h
    split at h
    · simp at h
    · next hnew =>
      split at h
      · simp at h
      · obtain ⟨hnodup, hfresh⟩ := ih h
        refine ⟨?_, ?_⟩
        · rw [map_cons, nodup_cons]
          refine ⟨fun hmem => ?_, hnodup⟩
          obtain ⟨v, hv, heq⟩ := mem_map.mp hmem
          exact hfresh v hv (heq ▸ Finset.mem_insert_self _ _)
        · intro v hv
          rcases mem_cons.mp hv with rfl | hv
          · exact hnew
          · exact fun hmem => hfresh v hv (Finset.mem_insert_of_mem hmem)

/-- Several accepted voters have distinct control domains. -/
lemma domains_nodup_of_checkVoters
    (h : checkVoters true seenCells seenDomains voters = .ok ()) :
    (voters.map VoterReplica.controlDomainId).Nodup ∧
      ∀ v ∈ voters, seenDomains[v.controlDomainId]? = none := by
  induction voters generalizing seenCells seenDomains with
  | nil => simp
  | cons voter rest ih =>
    unfold checkVoters at h
    split at h
    · simp at h
    · split at h
      · simp at h
      · next hnew =>
        obtain ⟨hnodup, hfresh⟩ := ih h
        have hnew : seenDomains[voter.controlDomainId]? = none := hnew
        refine ⟨?_, ?_⟩
        · rw [map_cons, nodup_cons]
          refine ⟨fun hmem => ?_, hnodup⟩
          obtain ⟨v, hv, heq⟩ := mem_map.mp hmem
          simpa [heq] using hfresh v hv
        · intro v hv
          rcases mem_cons.mp hv with rfl | hv
          · exact hnew
          · have hother := hfresh v hv
            rw [Table.getElem?_insert_eq] at hother
            split at hother
            · simp at hother
            · exact hother

namespace ValidatedVoterRoster

def new (voters : List VoterReplica) : Except ConsensusConfigError ValidatedVoterRoster :=
  if hempty : voters = [] then .error .emptyVoterSet
  else
    match hcheck : checkVoters (1 < voters.length) ∅ ∅ voters with
    | .error e => .error e
    | .ok () =>
      if htwo : voters.length = 2 then .error .unsupportedTwoNodeQuorum
      else
        have hperm := voters.perm_insertionSort fun a b => a.cellIdentity ≤ b.cellIdentity
        .ok {
          members := voters.insertionSort fun a b => a.cellIdentity ≤ b.cellIdentity
          nonempty := by
            intro hnil
            exact hempty (perm_nil.mp (hnil ▸ hperm).symm)
          cells_nodup :=
            ((hperm.map _).nodup_iff).mpr (cells_nodup_of_checkVoters hcheck).1
          domains_nodup := by
            intro hlen
            rw [hperm.length_eq] at hlen
            simp only [hlen, decide_true] at hcheck
            exact ((hperm.map _).nodup_iff).mpr (domains_nodup_of_checkVoters hcheck).1
          ne_two := by rwa [hperm.length_eq] }

variable (r : ValidatedVoterRoster)

def len : ℕ := r.members.length

def quorumSize : ℕ := r.members.length / 2 + 1

def contains (cell : CellIdentity) : Bool := r.members.any fun m => m.cellIdentity = cell

def domainOf (cell : CellIdentity) : Option ControlDomainId :=
  (r.members.find? fun m => m.cellIdentity = cell).map VoterReplica.controlDomainId

def cells : Finset CellIdentity := (r.members.map VoterReplica.cellIdentity).toFinset

def votersOf (domains : Finset ControlDomainId) : Finset CellIdentity :=
  ((r.members.filter fun m => m.controlDomainId ∈ domains).map VoterReplica.cellIdentity).toFinset

/-- A set of voters that is a strict majority. -/
structure IsQuorum (voters : Finset CellIdentity) : Prop where
  subset : voters ⊆ r.cells
  card_le : r.quorumSize ≤ voters.card

variable {r}

variable {cell : CellIdentity}

lemma contains_iff : r.contains cell = true ↔ cell ∈ r.cells := by
  simp [contains, cells]

variable {domains : Finset ControlDomainId}

lemma mem_votersOf : cell ∈ r.votersOf domains ↔
      ∃ m ∈ r.members, m.cellIdentity = cell ∧ m.controlDomainId ∈ domains := by
  simp only [votersOf, mem_toFinset, mem_map, mem_filter, decide_eq_true_eq]
  constructor
  · rintro ⟨m, ⟨hm, hd⟩, rfl⟩
    exact ⟨m, hm, rfl, hd⟩
  · rintro ⟨m, hm, rfl, hd⟩
    exact ⟨m, ⟨hm, hd⟩, rfl⟩

lemma eq_of_cell_eq (hm : m ∈ r.members) (hm' : m' ∈ r.members)
    (h : m.cellIdentity = m'.cellIdentity) : m = m' :=
  inj_on_of_nodup_map r.cells_nodup hm hm' h

lemma domainOf_eq_some_iff : r.domainOf cell = some domain ↔
      ∃ m ∈ r.members, m.cellIdentity = cell ∧ m.controlDomainId = domain := by
  simp only [domainOf, Option.map_eq_some_iff]
  constructor
  · rintro ⟨m, hfind, rfl⟩
    exact ⟨m, mem_of_find?_eq_some hfind, by simpa using find?_some hfind, rfl⟩
  · rintro ⟨m, hm, rfl, rfl⟩
    cases hfind : r.members.find? fun m' => m'.cellIdentity = m.cellIdentity with
    | none => simpa using find?_eq_none.mp hfind m hm
    | some m' =>
      have hcell : m'.cellIdentity = m.cellIdentity := by simpa using find?_some hfind
      exact ⟨m', rfl, by rw [eq_of_cell_eq (mem_of_find?_eq_some hfind) hm hcell]⟩

lemma exists_domainOf (h : cell ∈ r.cells) : ∃ domain, r.domainOf cell = some domain := by
  simp only [cells, mem_toFinset, mem_map] at h
  obtain ⟨m, hm, rfl⟩ := h
  exact ⟨m.controlDomainId, domainOf_eq_some_iff.mpr ⟨m, hm, rfl, rfl⟩⟩

lemma card_cells : r.cells.card = r.members.length := by
  rw [cells, toFinset_card_of_nodup r.cells_nodup, length_map]

/-- Each domain has one voter, so domains are counted like voters. -/
lemma card_votersOf (hlen : 1 < r.members.length)
    (hdomains : ∀ d ∈ domains, ∃ m ∈ r.members, m.controlDomainId = d) :
    (r.votersOf domains).card = domains.card := by
  have hfilter : ((r.members.filter fun m => m.controlDomainId ∈ domains).map
      VoterReplica.controlDomainId).toFinset = domains := by
    ext d
    simp only [mem_toFinset, mem_map, mem_filter, decide_eq_true_eq]
    constructor
    · rintro ⟨m, ⟨-, hd⟩, rfl⟩
      exact hd
    · intro hd
      obtain ⟨m, hm, rfl⟩ := hdomains d hd
      exact ⟨m, ⟨hm, hd⟩, rfl⟩
  have hsub : (r.members.filter fun m => m.controlDomainId ∈ domains).Sublist r.members :=
    filter_sublist
  have hdomainsCard := congrArg Finset.card hfilter
  rw [toFinset_card_of_nodup ((r.domains_nodup hlen).sublist (hsub.map _)),
    length_map] at hdomainsCard
  rw [votersOf, toFinset_card_of_nodup (r.cells_nodup.sublist (hsub.map _)),
    length_map, hdomainsCard]

/-- Enough domains are a quorum of voters. -/
lemma isQuorum_votersOf (hlen : 1 < r.members.length)
    (hdomains : ∀ d ∈ domains, ∃ m ∈ r.members, m.controlDomainId = d)
    (hcard : r.quorumSize ≤ domains.card) : r.IsQuorum (r.votersOf domains) where
  subset c hc := by
    obtain ⟨m, hm, rfl, -⟩ := mem_votersOf.mp hc
    simp only [cells, mem_toFinset, mem_map]
    exact ⟨m, hm, rfl⟩
  card_le := by rwa [card_votersOf hlen hdomains]

/-- Two quorums share a voter. -/
lemma IsQuorum.exists_common (hQ : r.IsQuorum Q)
    (hQ' : r.IsQuorum Q') : ∃ c, c ∈ Q ∧ c ∈ Q' := by
  have hlt : r.cells.card < Q.card + Q'.card := by
    have h := hQ.card_le
    have h' := hQ'.card_le
    rw [card_cells]
    unfold quorumSize at h h'
    omega
  obtain ⟨c, hc⟩ := Finset.inter_nonempty_of_card_lt_card_add_card hQ.subset hQ'.subset hlt
  exact ⟨c, Finset.mem_inter.mp hc⟩

end ValidatedVoterRoster

/-- Tick bounds; `maxSnapshotChunkBytes` bounds one snapshot chunk. -/
structure ConsensusTimingConfig where
  (heartbeatIntervalTicks leaderLeaseTicks electionTimeoutTicks maxSnapshotChunkBytes : ℕ)
deriving DecidableEq

def ConsensusTimingConfig.validate (c : ConsensusTimingConfig) :
    Except ConsensusConfigError ConsensusTimingConfig :=
  if c.heartbeatIntervalTicks = 0 ∨ c.leaderLeaseTicks ≤ c.heartbeatIntervalTicks ∨
      c.electionTimeoutTicks ≤ c.leaderLeaseTicks then
    .error (.invalidTimingBounds c.heartbeatIntervalTicks c.leaderLeaseTicks c.electionTimeoutTicks)
  else .ok c

lemma ConsensusTimingConfig.validate_eq_ok {c d : ConsensusTimingConfig}
    (h : c.validate = .ok d) : d = c := by
  unfold validate at h
  split at h
  · simp at h
  · exact (Except.ok.inj h).symm

def ConsensusTimingConfig.default : ConsensusTimingConfig := ⟨2, 5, 10, 16 * 1024⟩

end Nlos.Consensus
