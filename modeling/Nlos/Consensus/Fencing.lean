import Nlos.Consensus.QuotaLedger
import Nlos.Lib.Register

/-!
# Fencing and authority along the log

Fence high-waters, device heads and task assignments are compare-and-set registers written by
accepted commands. So fencing tokens increase per scope, device transitions increase in epoch
and token and return to `free` with a proof before they are `active` again, and takeovers of a
task generation form one chain from its initial assignment.
-/

namespace Nlos.Consensus

open Lib ControlPlaneTables CommittedTaskAuthorityAssignment ReplicatedDeviceHeadEntry
open ControlPlaneStateMachine

variable {logIndex term : NonZeroU64} {t : ControlPlaneTables} {r : CommandResult}
  {cmd : ControlPlaneCommand}

def acceptedWrite {V : Type} (write : ControlPlaneTables → ControlPlaneCommand → Option V)
    (e : ApplyEvent) : Option V :=
  if e.Accepted then write e.pre.toControlPlaneTables e.input.proposal.command else none

structure TableRegister (V W : Type) where
  write : ControlPlaneTables → ControlPlaneCommand → Option V
  view : V → W
  stored : ControlPlaneTables → Option W
  admits : Option W → V → Prop
  stored_genesis : stored {} = none
  keep : ∀ {logIndex term t cmd r}, ControlPlaneTables.applyInner t logIndex term cmd = .ok r →
    (r.2 = none → write t cmd = none) → stored r.1 = stored t
  store : ∀ {logIndex term t cmd r v}, ControlPlaneTables.applyInner t logIndex term cmd = .ok r →
    r.2 = none → write t cmd = some v → stored r.1 = some (view v) ∧ admits (stored t) v

namespace TableRegister

variable {V W : Type} (reg : TableRegister V W)

def toRegister : Register ControlPlaneStateMachine CommittedEntry AppliedProposalOutcome V W where
  write := acceptedWrite reg.write
  view := reg.view
  stored sm := reg.stored sm.toControlPlaneTables
  admits := reg.admits

/-- Replays write nothing, and a command that runs is checked by its arm. -/
lemma checked : reg.toRegister.Checked applyCommittedEntry where
  keep hf hw := by
    obtain ⟨-, hstep⟩ := entryStep_of_apply hf
    cases hstep with
    | replayed => rfl
    | executed hnew hinner =>
      refine reg.keep hinner fun hr => ?_
      simpa [toRegister, acceptedWrite, hr] using hw
  store hf hw := by
    obtain ⟨-, hstep⟩ := entryStep_of_apply hf
    cases hstep with
    | replayed => simp [toRegister, acceptedWrite] at hw
    | executed hnew hinner =>
      simp only [toRegister, acceptedWrite, accepted_executed_iff, Option.ite_none_right_eq_some]
        at hw
      exact reg.store hinner hw.1 hw.2

lemma chained (hrun : Applies h sm) : reg.toRegister.Chained h sm := by
  have hgenesis : reg.toRegister.stored .new = none := reg.stored_genesis
  exact reg.checked.chained hgenesis hrun

end TableRegister

def fenceWrite (scope : Word 16) (t : ControlPlaneTables) (cmd : ControlPlaneCommand) :
    Option CellFencingToken :=
  (t.quotaFence? cmd).bind fun (s, token) => if s = scope then some token else none

def quotaFencingTokens (scope : Word 16) (h : List ApplyEvent) : List CellFencingToken :=
  h.filterMap (acceptedWrite (fenceWrite scope))

section Fence

variable {scope : Word 16} {t' : ControlPlaneTables} {o : Option ControlPlaneDomainRejection}

lemma fence_keep (hstep : t.QuotaStep logIndex cmd o t')
    (hkeep : o = none → fenceWrite scope t cmd = none) :
    t'.fenceScopeHighWater[scope]? = t.fenceScopeHighWater[scope]? := by
  cases hstep with
  | registered _ _ _ hfences => rw [hfences]
  | allocated _ _ _ _ _ _ hfences =>
    rw [hfences, Table.getElem?_insert_ne]
    simpa [fenceWrite, quotaFence?] using hkeep rfl
  | settled hlease _ _ _ _ _ _ _ hfences =>
    rw [hfences, Table.getElem?_insert_ne]
    simpa [fenceWrite, quotaFence?, hlease] using hkeep rfl
  | unchanged _ _ _ _ hfences => rw [hfences]

lemma fence_store (hstep : t.QuotaStep logIndex cmd o t')
    (ho : o = none) (hw : fenceWrite scope t cmd = some token) :
    t'.fenceScopeHighWater[scope]? = some token ∧
      ∀ prev ∈ t.fenceScopeHighWater[scope]?, prev < token := by
  cases hstep with
  | registered => simp [fenceWrite, quotaFence?] at hw
  | allocated _ hfence _ _ _ _ hfences =>
    obtain ⟨rfl, rfl⟩ : _ = scope ∧ _ = token := by
      simpa [fenceWrite, quotaFence?] using hw
    exact ⟨by rw [hfences, Std.ExtTreeMap.getElem?_insert_self], hfence⟩
  | settled hlease _ _ hfence _ _ _ _ hfences =>
    obtain ⟨rfl, rfl⟩ : _ = scope ∧ _ = token := by
      simpa [fenceWrite, quotaFence?, hlease] using hw
    exact ⟨by rw [hfences, Std.ExtTreeMap.getElem?_insert_self], hfence⟩
  | unchanged hother => simp [fenceWrite, hother ho] at hw

end Fence

def fenceRegister (scope : Word 16) : TableRegister CellFencingToken CellFencingToken where
  write := fenceWrite scope
  view token := token
  stored t := t.fenceScopeHighWater[scope]?
  admits prev token := ∀ p ∈ prev, p < token
  stored_genesis := by simp
  keep h hkeep := fence_keep (ControlPlaneTables.quotaStep_of_applyInner h) hkeep
  store h hr hw := fence_store (ControlPlaneTables.quotaStep_of_applyInner h) hr hw

structure DeviceTransition where
  exclusivityEpoch : NonZeroU64
  fencingToken : CellFencingToken
  state : ReplicatedDeviceHeadState
  hasResetZeroizationProof : Bool
deriving DecidableEq

def deviceWrite (device : DeviceId) : ControlPlaneCommand → Option DeviceTransition
  | .rootLeasePoolMutation
      (.transitionExclusiveDeviceHead deviceId _ epoch _ token newState proof) =>
      if deviceId = device then some ⟨epoch, token, newState, proof⟩ else none
  | _ => none

def deviceTransitions (device : DeviceId) (h : List ApplyEvent) : List DeviceTransition :=
  h.filterMap (acceptedWrite fun _ => deviceWrite device)

abbrev DeviceView := NonZeroU64 × CellFencingToken × ReplicatedDeviceHeadState

def ReplicatedDeviceHeadEntry.deviceView (e : ReplicatedDeviceHeadEntry) : DeviceView :=
  (e.exclusivityEpoch, e.fencingToken, e.state)

/-- The check of a transition: a first one is to `active`, a later one increases the epoch and
the token and follows the automaton. -/
def DeviceTransition.Admitted : Option DeviceView → DeviceTransition → Prop
  | none, d => d.state = .active
  | some (epoch, token, state), d => epoch < d.exclusivityEpoch ∧ token < d.fencingToken ∧
      ControlPlaneTables.deviceTransitionAllowed state d.state d.hasResetZeroizationProof

/-- A transition is refused and changes nothing, or is accepted and succeeds the stored head. -/
lemma transitionExclusiveDeviceHead_spec (t : ControlPlaneTables) (logIndex : NonZeroU64)
    (id : DeviceId) (lease : ExclusiveDeviceLeaseId) (epoch : NonZeroU64)
    (holder : Option CellIdentity) (token : CellFencingToken)
    (state : ReplicatedDeviceHeadState) (proof : Bool) :
    let res := t.transitionExclusiveDeviceHead logIndex id lease epoch holder token state proof
    (res.2 ≠ none ∧ res.1 = t) ∨ (res.2 = none ∧ res.1.deviceHeads = t.deviceHeads.insert id
        ⟨id, lease, epoch, holder, token, state, logIndex⟩ ∧
      DeviceTransition.Admitted (t.deviceHeads[id]?.map deviceView)
        ⟨epoch, token, state, proof⟩) := by
  simp only [transitionExclusiveDeviceHead]
  split
  · exact .inl ⟨by simp [reject], rfl⟩
  · split
    · exact .inl ⟨by simp [reject], rfl⟩
    · split
      · next hallowed =>
        refine .inr ⟨rfl, rfl, ?_⟩
        cases hhead : t.deviceHeads[id]? with
        | none =>
          simpa [hhead, deviceHeadAllowed, DeviceTransition.Admitted]
            using hallowed
        | some =>
          simpa [hhead, deviceHeadAllowed, DeviceTransition.Admitted,
            deviceView, and_assoc] using hallowed
      · exact .inl ⟨by simp [reject], rfl⟩

section Device

variable {device : DeviceId}

lemma device_keep (h : t.applyInner logIndex term cmd = .ok r)
    (hkeep : r.2 = none → deviceWrite device cmd = none) :
    r.1.deviceHeads[device]? = t.deviceHeads[device]? := by
  rcases (applyInner_frame h).1 with
    hframe | ⟨id, lease, epoch, holder, token, state, proof, rfl⟩
  · rw [hframe]
  · cases h
    rcases transitionExclusiveDeviceHead_spec t logIndex id lease epoch holder token state proof
      with ⟨-, hsame⟩ | ⟨hr, hheads, -⟩
    · rw [hsame]
    · rw [hheads, Table.getElem?_insert_ne]
      simpa [deviceWrite] using hkeep hr

lemma device_store (h : t.applyInner logIndex term cmd = .ok r)
    (hr : r.2 = none) (hw : deviceWrite device cmd = some d) :
    r.1.deviceHeads[device]?.map deviceView = some (d.exclusivityEpoch, d.fencingToken, d.state) ∧
      d.Admitted (t.deviceHeads[device]?.map deviceView) := by
  unfold deviceWrite at hw
  split at hw
  · next id lease epoch holder token state proof =>
    obtain ⟨rfl, rfl⟩ : id = device ∧ (⟨epoch, token, state, proof⟩ : DeviceTransition) = d := by
      simpa using hw
    cases h
    rcases transitionExclusiveDeviceHead_spec t logIndex id lease epoch holder token state proof
      with ⟨hr', -⟩ | ⟨-, hheads, hadmitted⟩
    · exact (hr' hr).elim
    · refine ⟨?_, hadmitted⟩
      rw [hheads, Std.ExtTreeMap.getElem?_insert_self]
      rfl
  · simp at hw

end Device

def deviceRegister (device : DeviceId) : TableRegister DeviceTransition DeviceView where
  write _ := deviceWrite device
  view d := (d.exclusivityEpoch, d.fencingToken, d.state)
  stored t := t.deviceHeads[device]?.map ReplicatedDeviceHeadEntry.deviceView
  admits stored d := d.Admitted stored
  stored_genesis := by simp
  keep h hkeep := by rw [device_keep h hkeep]
  store h hr hw := device_store h hr hw

lemma free_of_allowed_active {state proof}
    (h : deviceTransitionAllowed state .active proof) : state = .free := by
  cases state <;> simp [deviceTransitionAllowed] at h ⊢

lemma proof_of_allowed_free {state proof}
    (h : deviceTransitionAllowed state .free proof) : proof = true := by
  cases state <;> simp_all [deviceTransitionAllowed]

lemma exists_free_between {l} {x y : DeviceTransition} (hchain : (x :: l ++ [y]).IsChain fun u v =>
      v.Admitted (some (u.exclusivityEpoch, u.fencingToken, u.state)))
    (hx : x.state = .active) (hy : y.state = .active) :
    ∃ z ∈ l, z.state = .free ∧ z.hasResetZeroizationProof = true := by
  have hfree {z : DeviceTransition} (hz : z ∈ (x :: l).getLast?) : z.state = .free := by
    have hzy := ((List.isChain_append.mp hchain).2.2 z hz y rfl).2.2
    exact free_of_allowed_active (hy ▸ hzy)
  rcases List.eq_nil_or_concat' l with rfl | ⟨l', z, rfl⟩
  · have hx' : x.state = .free := hfree rfl
    simp [hx] at hx'
  · have hsplit : x :: (l' ++ [z]) = (x :: l') ++ [z] := rfl
    have hz : z.state = .free := hfree (by rw [hsplit, Option.mem_def, List.getLast?_concat])
    refine ⟨z, by simp, hz, ?_⟩
    obtain ⟨w, hw⟩ : ∃ w, (x :: l').getLast? = some w :=
      ⟨_, List.getLast?_eq_some_getLast (by simp)⟩
    have hxl := (List.isChain_append.mp hchain).1
    rw [hsplit, List.isChain_append] at hxl
    exact proof_of_allowed_free (hz ▸ (hxl.2.2 w hw z rfl).2.2)

/-! ## Task authority -/

/-- An accepted assignment of a task generation: the assignment and term it replaces, if it is
a takeover, and what it installs. -/
structure AuthorityGrant where
  replaces : Option (TaskAuthorityAssignmentId × NonZeroU64)
  assignmentId : TaskAuthorityAssignmentId
  authorityTerm : NonZeroU64
  (controlEpoch participantRegistryGeneration : U64)
  homeCell : CellIdentity
  participantRegistryRoot : Digest
deriving DecidableEq

def authorityWrite (task : TaskId) (gen : Generation) :
    ControlPlaneCommand → Option AuthorityGrant
  | .taskAuthorityShardMutation (.assignInitialAuthority assignmentId taskId taskGeneration _
      homeCell authorityTerm controlEpoch registryGeneration registryRoot) =>
      if (taskId, taskGeneration) = (task, gen) then
        some ⟨none, assignmentId, authorityTerm, controlEpoch, registryGeneration, homeCell,
          registryRoot⟩
      else none
  | .taskAuthorityShardMutation (.recordCompletedTakeover _ taskId taskGeneration oldAssignmentId
      newAssignmentId frozenOldAuthorityTerm newAuthorityTerm newHomeCell newControlEpoch
      newRegistryGeneration newRegistryRoot _ _) =>
      if (taskId, taskGeneration) = (task, gen) then
        some ⟨some (oldAssignmentId, frozenOldAuthorityTerm), newAssignmentId, newAuthorityTerm,
          newControlEpoch, newRegistryGeneration, newHomeCell, newRegistryRoot⟩
      else none
  | _ => none

/-- The accepted assignment and takeovers of a task generation, in log order. -/
def authorityGrants (task : TaskId) (gen : Generation) (h : List ApplyEvent) :
    List AuthorityGrant :=
  h.filterMap (acceptedWrite fun _ => authorityWrite task gen)

abbrev AuthorityView :=
  TaskAuthorityAssignmentId × NonZeroU64 × U64 × U64 × CellIdentity × Digest

def AuthorityGrant.authorityView (g : AuthorityGrant) : AuthorityView :=
  (g.assignmentId, g.authorityTerm, g.controlEpoch, g.participantRegistryGeneration, g.homeCell,
    g.participantRegistryRoot)

def CommittedTaskAuthorityAssignment.authorityView (a : CommittedTaskAuthorityAssignment) :
    AuthorityView :=
  (a.assignmentId, a.authorityTerm, a.controlEpoch, a.participantRegistryGeneration, a.homeCell,
    a.participantRegistryRoot)

/-- A grant succeeds another: it replaces exactly that one and increases the authority term,
the control epoch and the registry generation. -/
def AuthorityGrant.Admitted : Option AuthorityView → AuthorityGrant → Prop
  | none, g => g.replaces = none
  | some (assignmentId, authorityTerm, controlEpoch, registryGeneration, _), g =>
    g.replaces = some (assignmentId, authorityTerm) ∧ authorityTerm < g.authorityTerm ∧
      controlEpoch < g.controlEpoch ∧ registryGeneration < g.participantRegistryGeneration

/-- A command is refused and changes nothing, or stores what its grant says, admitted by the
assignment it finds. -/
lemma applyTaskAuthorityShard_spec (t : ControlPlaneTables) (logIndex term : NonZeroU64)
    (cmd : TaskAuthorityShardCommand) :
    let res := t.applyTaskAuthorityShard logIndex term cmd
    (res.2 ≠ none ∧ res.1 = t) ∨ (res.2 = none ∧ ∃ key a g,
      (∀ task gen, authorityWrite task gen (.taskAuthorityShardMutation cmd) =
        if key = (task, gen) then some g else none) ∧
      res.1.taskShards = t.taskShards.insert key a ∧ a.authorityView = g.authorityView ∧
      g.Admitted (t.taskShards[key]?.map authorityView)) := by
  cases cmd with
  | assignInitialAuthority _ taskId taskGeneration =>
    simp only [applyTaskAuthorityShard]
    split
    · exact .inl ⟨by simp [reject], rfl⟩
    · next hnew =>
      refine .inr ⟨rfl, _, _, ⟨none, _, _, _, _, _, _⟩, fun _ _ => rfl, rfl, rfl, ?_⟩
      have hnone : t.taskShards[(taskId, taskGeneration)]? = none := by simpa using hnew
      simp [hnone, AuthorityGrant.Admitted]
  | recordCompletedTakeover =>
    simp only [applyTaskAuthorityShard]
    split
    · exact .inl ⟨by simp [reject], rfl⟩
    · next hguard =>
      split
      · exact .inl ⟨by simp [reject], rfl⟩
      · next current hcurrent =>
        split
        · exact .inl ⟨by simp [reject], rfl⟩
        · next hcas =>
          refine .inr ⟨rfl, _, _, ⟨some (_, _), _, _, _, _, _, _⟩, fun _ _ => rfl, rfl, rfl, ?_⟩
          push Not at hguard hcas
          obtain ⟨rfl, rfl, hepoch, hgen⟩ := hcas
          simp only [hcurrent, Option.map_some, AuthorityGrant.Admitted, authorityView]
          exact ⟨trivial, hguard.2.1, hepoch, hgen⟩

section Authority

variable {task : TaskId} {gen : Generation}

lemma authority_keep (h : t.applyInner logIndex term cmd = .ok r)
    (hkeep : r.2 = none → authorityWrite task gen cmd = none) :
    r.1.taskShards[(task, gen)]? = t.taskShards[(task, gen)]? := by
  rcases (applyInner_frame h).2 with hframe | ⟨sub, rfl⟩
  · rw [hframe]
  · cases h
    rcases applyTaskAuthorityShard_spec t logIndex term sub with
      ⟨-, hsame⟩ | ⟨hr, key, a, g, hwrite, hshards, -⟩
    · rw [hsame]
    · rw [hshards, Table.getElem?_insert_ne]
      simpa [hwrite] using hkeep hr

lemma authority_store (h : t.applyInner logIndex term cmd = .ok r)
    (hr : r.2 = none) (hw : authorityWrite task gen cmd = some g) :
    r.1.taskShards[(task, gen)]?.map authorityView = some g.authorityView ∧
      g.Admitted (t.taskShards[(task, gen)]?.map authorityView) := by
  cases cmd with
  | taskAuthorityShardMutation sub =>
    cases h
    rcases applyTaskAuthorityShard_spec t logIndex term sub with
      ⟨hr', -⟩ | ⟨-, key, a, g', hwrite, hshards, hview, hadmitted⟩
    · exact (hr' hr).elim
    · obtain ⟨rfl, rfl⟩ : key = (task, gen) ∧ g' = g := by simpa [hwrite] using hw
      refine ⟨?_, hadmitted⟩
      rw [hshards, Std.ExtTreeMap.getElem?_insert_self, Option.map_some, hview]
  | _ => simp [authorityWrite] at hw

end Authority

def authorityRegister (task : TaskId) (gen : Generation) :
    TableRegister AuthorityGrant AuthorityView where
  write _ := authorityWrite task gen
  view := AuthorityGrant.authorityView
  stored t := t.taskShards[(task, gen)]?.map CommittedTaskAuthorityAssignment.authorityView
  admits stored g := g.Admitted stored
  stored_genesis := by simp
  keep h hkeep := by rw [authority_keep h hkeep]
  store h hr hw := authority_store h hr hw

/-- Along every committed log the fencing tokens of a scope increase; the transitions of a
device increase in epoch and token, with a proven return to `free` between two `active` ones;
and the grants of a task generation are one chain of takeovers from its initial assignment to
the stored one. -/
theorem fencing_and_authority_linear (log : CommittedLog) : ∃ h sm, log.apply = .ok (h, sm) ∧
    (∀ scope, (quotaFencingTokens scope h).Pairwise (· < ·)) ∧
    (∀ device, (deviceTransitions device h).Pairwise fun x y =>
      x.exclusivityEpoch < y.exclusivityEpoch ∧ x.fencingToken < y.fencingToken) ∧
    (∀ device l₁ x l₂ y l₃, deviceTransitions device h = l₁ ++ x :: l₂ ++ y :: l₃ →
      x.state = .active → y.state = .active →
      ∃ z ∈ l₂, z.state = .free ∧ z.hasResetZeroizationProof = true) ∧ (∀ task gen,
      (∀ g ∈ (authorityGrants task gen h).head?, g.replaces = none) ∧
      ((authorityGrants task gen h).IsChain fun g g' =>
        g'.replaces = some (g.assignmentId, g.authorityTerm) ∧
        g.authorityTerm < g'.authorityTerm ∧ g.controlEpoch < g'.controlEpoch ∧
        g.participantRegistryGeneration < g'.participantRegistryGeneration) ∧
      sm.taskShards[(task, gen)]?.map CommittedTaskAuthorityAssignment.authorityView =
        (authorityGrants task gen h).getLast?.map AuthorityGrant.authorityView) := by
  obtain ⟨h, sm, happly⟩ := log.apply_ok
  obtain ⟨hrun, -⟩ := run_of_runAll happly
  refine ⟨h, sm, happly, fun scope => ?_, fun device => ?_,
    fun device l₁ x l₂ y l₃ hsplit hx hy => ?_, fun task gen => ?_⟩
  · exact ((fenceRegister scope).chained hrun).pairwise fun u v huv => huv u rfl
  · have htrans : IsTrans DeviceTransition fun x y =>
        x.exclusivityEpoch < y.exclusivityEpoch ∧ x.fencingToken < y.fencingToken :=
      ⟨fun _ _ _ hab hbc => ⟨hab.1.trans hbc.1, hab.2.trans hbc.2⟩⟩
    exact ((deviceRegister device).chained hrun).pairwise fun u v huv => ⟨huv.1, huv.2.1⟩
  · have hchain := ((deviceRegister device).chained hrun).chain
    change (deviceTransitions device h).IsChain _ at hchain
    have hassoc : l₁ ++ x :: l₂ ++ y :: l₃ = l₁ ++ (x :: l₂ ++ [y]) ++ l₃ := by simp
    rw [hsplit, hassoc, List.isChain_append, List.isChain_append] at hchain
    exact exists_free_between hchain.1.2.1 hx hy
  · have hc := (authorityRegister task gen).chained hrun
    exact ⟨hc.head, hc.chain, hc.stored_eq⟩

end Nlos.Consensus
