import Nlos.Consensus.LogRepr

/-!
# A cluster of replicas

A cluster is a replica for each voter and the messages sent so far. A message stays in the network,
so that it can be delivered late, repeatedly, out of order or never. Each replica keeps what its
effects made durable; a crash rebuilds it from that alone.
-/

namespace Nlos.Consensus

open Lib

def RehydratedCoreState.record (d : RehydratedCoreState) :
    ConsensusEffect → RehydratedCoreState
  | .persistHardState currentTerm votedFor =>
    { d with currentTerm := currentTerm, votedFor := votedFor }
  | .installSnapshot snapshot snapshotBytes =>
    { d with
      snapshot := some (snapshot, snapshotBytes)
      logTail :=
        if d.logTail.any fun e =>
            e.index = snapshot.includedIndex ∧ e.term = snapshot.includedTerm then
          d.logTail.filter fun e => snapshot.includedIndex < e.index
        else []
      commitIndex := max d.commitIndex snapshot.includedIndex }
  | .truncateLogSuffixFrom fromIndex =>
    { d with logTail := d.logTail.filter fun e => e.index < fromIndex }
  | .appendLogEntries entries =>
    { d with logTail := d.logTail ++ entries.map RaftLogEntry.stored }
  | .advanceCommitIndex commitIndex _ _ => { d with commitIndex := commitIndex }
  | _ => d

def RehydratedCoreState.recordSnapshot (d : RehydratedCoreState) (snapshot : SnapshotMetadata)
    (snapshotBytes : List UInt8) : RehydratedCoreState :=
  { d with
    snapshot := some (snapshot, snapshotBytes)
    logTail := d.logTail.filter fun e => snapshot.includedIndex < e.index }

structure AppliedUpTo where
  (index term : ℕ)
deriving DecidableEq

def AppliedUpTo.applyAll (a : AppliedUpTo) (entries : List RaftLogEntry) : AppliedUpTo :=
  entries.foldl (fun a e => if e.index ≤ a.index then a else ⟨e.index, e.term⟩) a

def AppliedUpTo.record (a : AppliedUpTo) : ConsensusEffect → AppliedUpTo
  | .advanceCommitIndex _ _ newlyCommitted => a.applyAll newlyCommitted
  | .installSnapshot snapshot _ =>
    if a.index ≤ snapshot.includedIndex then ⟨snapshot.includedIndex, snapshot.includedTerm⟩
    else a
  | _ => a

/-! ## The cluster -/

structure Node where
  core : ConsensusCore
  durable : RehydratedCoreState
  applied : AppliedUpTo

structure Envelope where
  (source target : CellIdentity)
  message : RaftMessage
deriving DecidableEq

structure Cluster where
  nodes : CellIdentity → Node
  network : List Envelope

structure ClusterConfig where
  roster : ValidatedVoterRoster
  timing : CellIdentity → ConsensusTimingConfig
  timing_ok : ∀ n, (timing n).validate = .ok (timing n)

def outgoing (source : CellIdentity) (effects : List ConsensusEffect) : List Envelope :=
  effects.filterMap fun
    | .sendMessage target message => some ⟨source, target, message⟩
    | _ => none

/-- A replica in a new state, after its effects were made durable and applied. -/
def Node.emit (node : Node) (effects : List ConsensusEffect) (core : ConsensusCore) : Node :=
  ⟨core, effects.foldl .record node.durable, effects.foldl .record node.applied⟩

def Cluster.emit (cl : Cluster) (n : CellIdentity) (effects : List ConsensusEffect)
    (core : ConsensusCore) : Cluster where
  nodes := Function.update cl.nodes n ((cl.nodes n).emit effects core)
  network := cl.network ++ outgoing n effects

def Cluster.replace (cl : Cluster) (n : CellIdentity) (node : Node) : Cluster where
  nodes := Function.update cl.nodes n node
  network := cl.network

namespace ClusterConfig

variable (cfg : ClusterConfig)

/-- The replica of a voter at genesis; a cell outside the roster has a placeholder that never
runs. -/
def boot (n : CellIdentity) : ConsensusCore :=
  match ConsensusCore.new n cfg.roster (cfg.timing n) with
  | .ok c => c
  | .error _ => .genesis n 0 cfg.roster (cfg.timing n)

def start : Cluster where
  nodes n := ⟨cfg.boot n, .default, ⟨0, 0⟩⟩
  network := []

inductive Action where
  | tick (n : CellIdentity)
  | propose (n : CellIdentity) (proposal : ControlPlaneProposal) (expectedLeaderTerm : Option ℕ)
  | requestLinearizableRead (n : CellIdentity) (readId : ℕ) (expectedLeaderTerm : Option ℕ)
  | deliver (position : ℕ)
  | crash (n : CellIdentity)
  | snapshot (n : CellIdentity) (stateRootDigest : Digest) (snapshotBytes : List UInt8)

inductive ActionError where
  | notAVoter (n : CellIdentity)
  | noSuchMessage (position : ℕ)
  | nothingApplied (n : CellIdentity)
  | config (e : ConsensusConfigError)

/-- The replica that takes a step of its core in an action, and what it reads. -/
def Action.input (cl : Cluster) : Action → Option (CellIdentity × ConsensusInput)
  | .tick n => some (n, .tick)
  | .propose n proposal expected => some (n, .propose proposal expected)
  | .requestLinearizableRead n readId expected =>
    some (n, .requestLinearizableRead readId expected)
  | .deliver position =>
    cl.network[position]?.map fun envelope =>
      (envelope.target, .receiveMessage envelope.source envelope.message)
  | .crash _ => none
  | .snapshot _ _ _ => none

structure Output where
  node : CellIdentity
  effects : List ConsensusEffect

def execStep (cl : Cluster) (n : CellIdentity) (input : ConsensusInput) :
    Except ActionError (Cluster × Output) :=
  if n ∈ cfg.roster.cells then
    let result := (cl.nodes n).core.step input
    .ok (cl.emit n result.2 result.1, ⟨n, result.2⟩)
  else .error (.notAVoter n)

/-- A replica after a crash: its core is rebuilt from durable state and the state machine
replayed up to the commit index. -/
def restarted (durable : RehydratedCoreState) (core : ConsensusCore) : Node :=
  ⟨core, durable, ⟨core.commitIndex, (core.termAt core.commitIndex).getD 0⟩⟩

def snapshotted (node : Node) (stateRootDigest : Digest) (snapshotBytes : List UInt8) : Node :=
  let snapshot : SnapshotMetadata := ⟨node.applied.index, node.applied.term, stateRootDigest⟩
  { node with
    core := (node.core.recordLocalSnapshot snapshot snapshotBytes snapshot.includedIndex).1
    durable := node.durable.recordSnapshot snapshot snapshotBytes }

def exec (cl : Cluster) : Action → Except ActionError (Cluster × Output)
  | .tick n => cfg.execStep cl n .tick
  | .propose n proposal expected => cfg.execStep cl n (.propose proposal expected)
  | .requestLinearizableRead n readId expected =>
    cfg.execStep cl n (.requestLinearizableRead readId expected)
  | .deliver position =>
    match cl.network[position]? with
    | some envelope =>
      cfg.execStep cl envelope.target (.receiveMessage envelope.source envelope.message)
    | none => .error (.noSuchMessage position)
  | .crash n =>
    if n ∈ cfg.roster.cells then
      match ConsensusCore.rehydrate n cfg.roster (cfg.timing n) (cl.nodes n).durable with
      | .ok core => .ok (cl.replace n (restarted (cl.nodes n).durable core), ⟨n, []⟩)
      | .error e => .error (.config e)
    else .error (.notAVoter n)
  | .snapshot n stateRootDigest snapshotBytes =>
    if n ∈ cfg.roster.cells then
      if (cl.nodes n).applied.index = 0 ∨ (cl.nodes n).applied.term = 0 then
        .error (.nothingApplied n)
      else
        .ok (cl.replace n (snapshotted (cl.nodes n) stateRootDigest snapshotBytes), ⟨n, []⟩)
    else .error (.notAVoter n)

abbrev ClusterRun (h : List (Event Cluster Action Output)) (cl : Cluster) : Prop :=
  Run cfg.exec cfg.start h cl

end ClusterConfig

section

variable {cl : Cluster} {n m : CellIdentity} {effects effects' : List ConsensusEffect}
  {core core' : ConsensusCore} {node : Node} {envelope : Envelope}

lemma outgoing_append :
    outgoing n (effects ++ effects') = outgoing n effects ++ outgoing n effects' :=
  List.filterMap_append

lemma mem_outgoing : envelope ∈ outgoing n effects ↔
      envelope.source = n ∧ .sendMessage envelope.target envelope.message ∈ effects := by
  obtain ⟨source, target, message⟩ := envelope
  simp only [outgoing, List.mem_filterMap]
  constructor
  · rintro ⟨e, he, heq⟩
    cases e <;> simp_all
  · rintro ⟨rfl, he⟩
    exact ⟨_, he, rfl⟩

@[simp] lemma emit_nodes_self : (cl.emit n effects core).nodes n =
    (cl.nodes n).emit effects core := by simp [Cluster.emit]

lemma emit_nodes_ne (h : m ≠ n) : (cl.emit n effects core).nodes m = cl.nodes m := by
  simp [Cluster.emit, h]

@[simp] lemma replace_nodes_self : (cl.replace n node).nodes n = node := by
  simp [Cluster.replace]

lemma replace_nodes_ne (h : m ≠ n) : (cl.replace n node).nodes m = cl.nodes m := by
  simp [Cluster.replace, h]

/-- What holds of every replica before an emission holds after it, if it holds of the new one. -/
lemma forall_emit {P : CellIdentity → Node → Prop} (hold : ∀ m, P m (cl.nodes m))
    (hnew : P n ((cl.nodes n).emit effects core)) (m : CellIdentity) :
    P m ((cl.emit n effects core).nodes m) := by
  by_cases h : m = n
  · subst h
    rwa [emit_nodes_self]
  · rw [emit_nodes_ne h]
    exact hold m

lemma forall_replace {P : CellIdentity → Node → Prop} (hold : ∀ m, P m (cl.nodes m))
    (hnew : P n node) (m : CellIdentity) : P m ((cl.replace n node).nodes m) := by
  by_cases h : m = n
  · subst h
    rwa [replace_nodes_self]
  · rw [replace_nodes_ne h]
    exact hold m

lemma mem_emit_network : envelope ∈ (cl.emit n effects core).network ↔ envelope ∈ cl.network ∨
      (envelope.source = n ∧ .sendMessage envelope.target envelope.message ∈ effects) := by
  rw [← mem_outgoing]
  exact List.mem_append

lemma mk_mem_emit_network :
    ⟨source, target, message⟩ ∈ (cl.emit n effects core).network ↔
      ⟨source, target, message⟩ ∈ cl.network ∨
        (source = n ∧ .sendMessage target message ∈ effects) := mem_emit_network

lemma emit_emit :
    (cl.emit n effects core).emit n effects' core' = cl.emit n (effects ++ effects') core' := by
  unfold Cluster.emit Node.emit
  simp [outgoing_append, List.foldl_append]

lemma emit_nil (cl : Cluster) (n : CellIdentity) : cl.emit n [] (cl.nodes n).core = cl := by
  unfold Cluster.emit Node.emit outgoing
  simp

end

/-- A client request can come at any time, a message only after it was sent. -/
def Permitted (network : List Envelope) (n : CellIdentity) : ConsensusInput → Prop
  | .receiveMessage sender message => ⟨sender, n, message⟩ ∈ network
  | _ => True

lemma Permitted.mono (h : Permitted network n input)
    (hsub : network ⊆ network') : Permitted network' n input := by
  cases input with
  | receiveMessage => exact hsub h
  | _ => trivial

namespace ClusterConfig

variable {cfg : ClusterConfig} {cl cl' : Cluster} {action : Action} {output : Output}

inductive Transition (cfg : ClusterConfig) (cl : Cluster) (action : Action) :
    Cluster → Output → Prop
  | step {n : CellIdentity} {input : ConsensusInput} : action.input cl = some (n, input) →
      n ∈ cfg.roster.cells → Permitted cl.network n input → Transition cfg cl action
        (cl.emit n ((cl.nodes n).core.step input).2 ((cl.nodes n).core.step input).1)
        ⟨n, ((cl.nodes n).core.step input).2⟩
  | crash {n : CellIdentity} {core : ConsensusCore} : n ∈ cfg.roster.cells →
      ConsensusCore.rehydrate n cfg.roster (cfg.timing n) (cl.nodes n).durable = .ok core →
      action = .crash n →
      Transition cfg cl action (cl.replace n (restarted (cl.nodes n).durable core)) ⟨n, []⟩
  | snapshot {n : CellIdentity} {stateRootDigest : Digest} {snapshotBytes : List UInt8} :
      n ∈ cfg.roster.cells → (cl.nodes n).applied.index ≠ 0 → (cl.nodes n).applied.term ≠ 0 →
      action = .snapshot n stateRootDigest snapshotBytes → Transition cfg cl action
        (cl.replace n (snapshotted (cl.nodes n) stateRootDigest snapshotBytes)) ⟨n, []⟩

lemma transition_of_execStep
    (h : cfg.execStep cl n input = .ok (cl', output)) (hinput : action.input cl = some (n, input))
    (hpermitted : Permitted cl.network n input) : Transition cfg cl action cl' output := by
  unfold execStep at h
  split at h
  · next hmem =>
    obtain ⟨rfl, rfl⟩ := Prod.mk.inj (Except.ok.inj h)
    exact .step hinput hmem hpermitted
  · simp at h

lemma transition_of_exec (h : cfg.exec cl action = .ok (cl', output)) :
    Transition cfg cl action cl' output := by
  cases action with
  | tick => exact transition_of_execStep h rfl trivial
  | propose => exact transition_of_execStep h rfl trivial
  | requestLinearizableRead => exact transition_of_execStep h rfl trivial
  | deliver =>
    simp only [exec] at h
    split at h
    · next envelope henvelope =>
      exact transition_of_execStep h (by simp [Action.input, henvelope])
        (List.mem_of_getElem? henvelope)
    · simp at h
  | crash =>
    simp only [exec] at h
    split at h
    · next hmem =>
      split at h
      · next core hcore =>
        obtain ⟨rfl, rfl⟩ := Prod.mk.inj (Except.ok.inj h)
        exact .crash hmem hcore rfl
      · simp at h
    · simp at h
  | snapshot =>
    simp only [exec] at h
    split at h
    · next hmem =>
      split at h
      · simp at h
      · next happlied =>
        obtain ⟨rfl, rfl⟩ := Prod.mk.inj (Except.ok.inj h)
        obtain ⟨hindex, hterm⟩ := not_or.mp happlied
        exact .snapshot hmem hindex hterm rfl
    · simp at h

/-- A property of clusters that every move of a voter, every restart and every local snapshot
keeps. -/
structure Inductive (cfg : ClusterConfig) (P : Cluster → Prop) : Prop where
  move : ∀ {cl : Cluster} {n : CellIdentity} {input : ConsensusInput}
    {effects : List ConsensusEffect} {core : ConsensusCore}, P cl → n ∈ cfg.roster.cells →
    Permitted cl.network n input → ConsensusCore.Move input (cl.nodes n).core effects core →
    P (cl.emit n effects core)
  crash : ∀ {cl : Cluster} {n : CellIdentity} {core : ConsensusCore}, P cl →
    n ∈ cfg.roster.cells →
    ConsensusCore.rehydrate n cfg.roster (cfg.timing n) (cl.nodes n).durable = .ok core →
    P (cl.replace n (restarted (cl.nodes n).durable core))
  snapshot : ∀ {cl : Cluster} {n : CellIdentity} {stateRootDigest : Digest}
    {snapshotBytes : List UInt8}, P cl → n ∈ cfg.roster.cells →
    (cl.nodes n).applied.index ≠ 0 → (cl.nodes n).applied.term ≠ 0 →
    P (cl.replace n (snapshotted (cl.nodes n) stateRootDigest snapshotBytes))

namespace Inductive

variable {P : Cluster → Prop} (hP : Inductive cfg P)

include hP

/-- What every single move of a replica preserves, its chains of moves preserve. -/
lemma moves (h : P cl) (hmem : n ∈ cfg.roster.cells)
    (hpermitted : Permitted cl.network n input)
    (hmoves : ConsensusCore.Moves input (cl.nodes n).core effects core) :
    P (cl.emit n effects core) := by
  refine hmoves.invariant (P := fun d es => P (cl.emit n es d)) (by rwa [emit_nil]) ?_
  intro d d' es es' hd hmove
  rw [← emit_emit]
  refine hP.move hd hmem (hpermitted.mono (List.subset_append_left _ _)) ?_
  rwa [emit_nodes_self]

lemma transition (h : P cl) (htransition : Transition cfg cl action cl' output) : P cl' := by
  cases htransition with
  | step _ hmem hpermitted => exact hP.moves h hmem hpermitted (ConsensusCore.moves_step _ _)
  | crash hmem hcore => exact hP.crash h hmem hcore
  | snapshot hmem hindex hterm => exact hP.snapshot h hmem hindex hterm

lemma run (hstart : P cfg.start) (hrun : cfg.ClusterRun h cl) : P cl :=
  hrun.invariant hstart fun ht hexec => hP.transition ht (transition_of_exec hexec)

end Inductive

end ClusterConfig

end Nlos.Consensus
