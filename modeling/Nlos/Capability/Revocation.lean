import Nlos.Capability.Confinement

/-!
# Revocation

Only a revocation moves a capability past its first generation, and no call moves it back, so a
capability past its first generation is revoked for good.
-/

namespace Nlos.Capability

open Lib List

variable {capabilityId : CapabilityId} {record : CapabilityRecord}

lemma Generation.ne_initial_of_checkedNext {g next : Generation}
    (h : g.checkedNext = some next) : next ≠ .initial := by
  unfold Generation.checkedNext at h
  split_ifs at h with hroom
  obtain rfl := Option.some.inj h
  intro hinitial
  have hval : g.val.val + 1 = 1 := congrArg (fun n : Generation => n.val.val) hinitial
  exact g.property (Fin.val_eq_zero_iff.mp (by omega))

namespace CapabilityAuthority

variable {s t : CapabilityAuthority}

def Superseded (s : CapabilityAuthority) (capabilityId : CapabilityId) : Prop :=
  ∃ head ∈ s.heads, head.capabilityId = capabilityId ∧ head.currentGeneration ≠ .initial

def RevokedPastInitial (s : CapabilityAuthority) : Prop :=
  ∀ version ∈ s.versions, version.generation ≠ .initial → version.revokedAtMs.isSome

lemma revokedPastInitial_of_change (hs : s.RevokedPastInitial) (h : s.Change t) :
    t.RevokedPastInitial := by
  intro version hversion hgeneration
  cases h with
  | quiet heads versions => exact hs version (versions ▸ hversion) hgeneration
  | issue record grounded fresh heads versions =>
    rw [versions, mem_append, mem_singleton] at hversion
    rcases hversion with hold | rfl
    · exact hs version hold hgeneration
    · exact absurd rfl hgeneration
  | revoke handle next revokedAtMs hnext heads versions =>
    rw [versions, mem_append, mem_singleton] at hversion
    rcases hversion with hold | rfl
    · exact hs version hold hgeneration
    · rfl

/-- Versions past the initial one come only from revocations. -/
lemma revokedPastInitial_of_run (hrun : Run step .new h s) : s.RevokedPastInitial := by
  refine hrun.invariant (P := RevokedPastInitial) ?_ ?_
  · exact fun version hversion => absurd hversion not_mem_nil
  · exact fun hs hstep => revokedPastInitial_of_change hs (change_of_step hstep)

lemma superseded_of_change (hs : s.Superseded capabilityId)
    (h : s.Change t) : t.Superseded capabilityId := by
  obtain ⟨head, hhead, hid, hgeneration⟩ := hs
  cases h with
  | quiet heads => exact ⟨head, heads ▸ hhead, hid, hgeneration⟩
  | issue record grounded fresh heads =>
    exact ⟨head, heads ▸ mem_append_left _ hhead, hid, hgeneration⟩
  | revoke handle next revokedAtMs hnext heads =>
    by_cases hmoved : head.capabilityId = handle.capabilityId ∧
        head.currentGeneration = handle.generation
    · refine ⟨{ head with currentGeneration := next }, ?_, hid,
        Generation.ne_initial_of_checkedNext hnext⟩
      rw [heads]
      exact mem_updateRows.mpr (.inr ⟨head, hhead, hmoved, rfl⟩)
    · refine ⟨head, ?_, hid, hgeneration⟩
      rw [heads]
      exact mem_updateRows.mpr (.inl ⟨hhead, hmoved⟩)

lemma superseded_of_revokeImpl {request : RevokeCapabilityRequest}
    (h : s.revokeImpl identity request proof = .ok (t, .revoked receipt)) :
    t.Superseded request.handle.capabilityId := by
  rw [revokeImpl, bind_eq_ok] at h
  obtain ⟨replay, -, h⟩ := h
  cases replay with
  | some =>
    obtain ⟨-, hdecision⟩ := Prod.mk.inj (pure_eq_ok.mp h)
    cases hdecision
  | none =>
    simp only [bind_eq_ok, orRefuse_eq_ok, pure_eq_ok, Prod.mk.injEq] at h
    obtain ⟨record, hrecord, -, -, -, -, revoker, -, -, -, -, -, next, hnext, -, -, -,
      -, versions, -, -, -, receipts, -, rfl, -⟩ := h
    obtain ⟨hload, hgeneration⟩ := loadExactCurrent_eq_ok.mp hrecord
    obtain ⟨head, hhead, hid, hhandle, -⟩ := exists_head_of_loadCurrentRecord hload
    rw [hhandle] at hgeneration
    refine ⟨{ head with currentGeneration := next }, ?_, hid,
      Generation.ne_initial_of_checkedNext hnext⟩
    exact mem_updateRows.mpr (.inr ⟨head, hhead, ⟨hid, hgeneration⟩, rfl⟩)

lemma revoked_of_superseded (hs : s.Sound) (hversions : s.RevokedPastInitial)
    (hsuperseded : s.Superseded capabilityId)
    (hload : s.loadCurrentRecord capabilityId = some record) : record.revokedAtMs.isSome := by
  obtain ⟨head, hhead, hid, hgeneration⟩ := hsuperseded
  simp only [loadCurrentRecord, loadRecordGeneration, Option.bind_eq_bind,
    Option.bind_eq_some_iff, Option.pure_def, Option.some.injEq] at hload
  obtain ⟨found, hfound, _, -, version, hversion, rfl⟩ := hload
  obtain rfl : found = head := by
    refine inj_on_of_nodup_map hs.distinct (mem_of_find?_eq_some hfound) hhead ?_
    rw [hid]
    simpa using find?_some hfound
  refine hversions version (mem_of_find?_eq_some hversion) ?_
  have hsame := find?_some hversion
  simp only [decide_eq_true_eq] at hsame
  rw [hsame.2]
  exact hgeneration

lemma validateChainFrom_ne_ok_of_superseded (hs : s.Sound) (hversions : s.RevokedPastInitial)
    {atMs turns depth head chain} (hchain : s.ParentChain head chain) {a} (ha : a ∈ chain)
    (hsuperseded : s.Superseded a.capabilityId)
    (hload : s.loadCurrentRecord head.capabilityId = some record) (hhead : head ∈ s.heads)
    {u} : s.validateChainFrom atMs turns depth record ≠ .ok u := by
  -- Induction on the chain: the walk visits the records of its members in order.
  induction hchain generalizing turns depth record with
  | @root head hroot =>
    intro hwalk
    obtain rfl := mem_singleton.mp ha
    cases turns with
    | zero => simp [validateChainFrom] at hwalk
    | succ =>
      simp only [validateChainFrom, bind_eq_ok, refuseIf_eq_ok] at hwalk
      obtain ⟨_, hlive, -⟩ := hwalk
      exact hlive (revoked_of_superseded hs hversions hsuperseded hload)
  | @child head parent chain hparent _ ih =>
    intro hwalk
    cases turns with
    | zero => simp [validateChainFrom] at hwalk
    | succ =>
      simp only [validateChainFrom, bind_eq_ok, refuseIf_eq_ok] at hwalk
      obtain ⟨_, hlive, _, -, _, -, hwalk⟩ := hwalk
      rcases mem_cons.mp ha with rfl | habove
      · exact hlive (revoked_of_superseded hs hversions hsuperseded hload)
      · obtain ⟨-, hstored, handle, hlink, hid⟩ := hparent
        obtain ⟨found, hfound, hsame, -, hterms⟩ := exists_head_of_loadCurrentRecord hload
        obtain rfl := inj_on_of_nodup_map hs.distinct hfound hhead hsame
        have hlink' : record.parent = some handle := by
          rw [hterms]
          exact hlink
        rw [hlink'] at hwalk
        simp only [bind_eq_ok, orRefuse_eq_ok, refuseIf_eq_ok] at hwalk
        obtain ⟨next, hnext, _, -, hrest⟩ := hwalk
        exact ih habove (hid ▸ hnext) hstored hrest

/-- A handle names the capability, or one whose parent chain contains it. -/
def DescendsFrom (s : CapabilityAuthority) (handle : CapabilityHandle)
    (capabilityId : CapabilityId) : Prop :=
  ∃ head ∈ s.heads, head.capabilityId = handle.capabilityId ∧
    ∃ chain, s.ParentChain head chain ∧ ∃ a ∈ chain, a.capabilityId = capabilityId

lemma validateActiveChain_ne_ok_of_superseded (hs : s.Sound) (hversions : s.RevokedPastInitial)
    (hsuperseded : s.Superseded capabilityId)
    {handle} (hdescends : s.DescendsFrom handle capabilityId)
    (hload : s.loadExactCurrent handle = .ok record) {atMs u} :
    s.validateActiveChain record atMs ≠ .ok u := by
  obtain ⟨head, hhead, hid, chain, hchain, a, ha, rfl⟩ := hdescends
  have hcurrent := (loadExactCurrent_eq_ok.mp hload).1
  rw [← hid] at hcurrent
  exact validateChainFrom_ne_ok_of_superseded hs hversions hchain ha hsuperseded hcurrent hhead

end CapabilityAuthority

/-! ## Exercising a capability -/

def CapabilityCall.exercised? : CapabilityCall → Option CapabilityHandle
  | .authorizeSemantic request => some request.handle
  | .inspectActive handle _ => some handle
  | .delegateSigned _ request _ => some request.parent
  | .consume request => some request.handle
  | _ => none

def CapabilityAnswer.exercises : CapabilityAnswer → Bool
  | .authorization _ => true
  | .active _ => true
  | .issue (.issued _ _) => true
  | .consumption (.consumed _) => true
  | _ => false

namespace CapabilityAuthority

variable {s t : CapabilityAuthority}

lemma replayed_of_loadIssueReplay
    (h : s.loadIssueReplay idempotencyKey requestDigest = .ok (some decision)) :
    ∃ record receipt, decision = .replayed record receipt := by
  unfold loadIssueReplay at h
  split at h
  · cases h
  · next row _ =>
    simp only [bind_eq_ok, pure_eq_ok, Option.some.injEq] at h
    obtain ⟨_, -, record, -, rfl⟩ := h
    exact ⟨record, row.receipt, rfl⟩

lemma walked_of_call {call handle} (hexercised : call.exercised? = some handle) {answer}
    (hexercises : answer.exercises) (h : s.call call = .ok (t, answer)) :
    ∃ record atMs u, s.loadExactCurrent handle = .ok record ∧
      s.validateActiveChain record atMs = .ok u := by
  cases call with
  | authorizeSemantic =>
    obtain rfl := Option.some.inj hexercised
    obtain ⟨authorization, hcall, -⟩ := map_eq_ok.mp h
    simp only [authorizeSemantic, admitSemantic, bind_eq_ok] at hcall
    obtain ⟨_, ⟨record, hload, u, hwalk, -⟩, -⟩ := hcall
    exact ⟨record, _, u, hload, hwalk⟩
  | inspectActive handle atMs =>
    obtain rfl := Option.some.inj hexercised
    obtain ⟨_, hcall, -⟩ := map_eq_ok.mp h
    simp only [inspectActive, bind_eq_ok] at hcall
    obtain ⟨record, hload, u, hwalk, -⟩ := hcall
    exact ⟨record, atMs, u, hload, hwalk⟩
  | delegateSigned =>
    obtain rfl := Option.some.inj hexercised
    obtain ⟨decision, hcall, rfl⟩ := map_snd_eq_ok.mp h
    rw [delegateImpl, bind_eq_ok] at hcall
    obtain ⟨_, -, hcall⟩ := hcall
    rw [bind_eq_ok] at hcall
    obtain ⟨replay, hreplay, hcall⟩ := hcall
    cases replay with
    | some =>
      obtain ⟨-, rfl⟩ := Prod.mk.inj (pure_eq_ok.mp hcall)
      obtain ⟨record, receipt, rfl⟩ := replayed_of_loadIssueReplay hreplay
      simp [CapabilityAnswer.exercises] at hexercises
    | none =>
      simp only [bind_eq_ok] at hcall
      obtain ⟨record, hload, u, hwalk, -⟩ := hcall
      exact ⟨record, _, u, hload, hwalk⟩
  | consume =>
    obtain rfl := Option.some.inj hexercised
    obtain ⟨decision, hcall, rfl⟩ := map_snd_eq_ok.mp h
    rw [consume, bind_eq_ok] at hcall
    obtain ⟨replay, -, hcall⟩ := hcall
    cases replay with
    | some =>
      obtain ⟨-, rfl⟩ := Prod.mk.inj (pure_eq_ok.mp hcall)
      simp [CapabilityAnswer.exercises] at hexercises
    | none =>
      simp only [bind_eq_ok, admitSemantic] at hcall
      obtain ⟨_, ⟨record, hload, u, hwalk, -⟩, -⟩ := hcall
      exact ⟨record, _, u, hload, hwalk⟩
  | _ => simp [CapabilityCall.exercised?] at hexercised

/-- After a capability was revoked, no exercise of it or of a descendant succeeds, in any later
state and at any time. -/
theorem revocation_transitive_permanent
    {h₁ h₂ : List (Event CapabilityAuthority CapabilityCall (Result CapabilityAnswer))}
    {e : Event CapabilityAuthority CapabilityCall (Result CapabilityAnswer)}
    (hrun : Run step .new (h₁ ++ e :: h₂) t) {identity : IdentityAuthority}
    {request : RevokeCapabilityRequest} {proof : CommandSignatureProof}
    (hinput : e.input = .revokeSigned identity request proof)
    {receipt : CapabilityRevocationReceipt}
    (houtput : e.output = .ok (.revocation (.revoked receipt))) :
    ∀ later ∈ h₂, ∀ handle, later.input.exercised? = some handle →
      later.pre.DescendsFrom handle request.handle.capabilityId →
      ∀ answer, later.output = .ok answer → answer.exercises = false := by
  intro later hlater handle hexercised hdescends answer hanswer
  obtain ⟨hbefore, s, hrevoke, hafter⟩ := hrun.split
  have hsuperseded : s.Superseded request.handle.capabilityId := by
    rw [hinput, houtput] at hrevoke
    have hcommit : commit e.pre (e.pre.call (.revokeSigned identity request proof)) =
        (s, .ok (.revocation (.revoked receipt))) := Except.ok.inj hrevoke
    obtain ⟨decision, hcall, hsame⟩ := map_snd_eq_ok.mp (commit_eq_ok.mp hcommit)
    obtain rfl := CapabilityAnswer.revocation.inj hsame
    exact superseded_of_revokeImpl hcall
  obtain ⟨h₃, h₄, rfl⟩ := append_of_mem hlater
  obtain ⟨hbetween, t', hstep, -⟩ := hafter.split
  have hkept : later.pre.Superseded request.handle.capabilityId :=
    hbetween.invariant (P := fun s => s.Superseded request.handle.capabilityId) hsuperseded
      fun hs hstep => superseded_of_change hs (change_of_step hstep)
  have hreached : Run step .new (h₁ ++ e :: h₃) later.pre := by
    have hfirst : Run step e.pre [e] s := .single hrevoke
    simpa using hbefore.trans (hfirst.trans hbetween)
  rw [Bool.eq_false_iff]
  intro hexercises
  have hcommit : commit later.pre (later.pre.call later.input) = (t', .ok answer) := by
    rw [← hanswer]
    exact Except.ok.inj hstep
  obtain ⟨record, atMs, u, hload, hwalk⟩ :=
    walked_of_call hexercised hexercises (commit_eq_ok.mp hcommit)
  exact validateActiveChain_ne_ok_of_superseded (sound_of_run hreached)
    (revokedPastInitial_of_run hreached) hkept hdescends hload hwalk

namespace Sample

def revocation : RevokeCapabilityRequest where
  handle := delegation.parent
  revokerKeyId := 1
  idempotencyKey := 3
  revokedAtMs := 25

def revokedCalls : List CapabilityCall :=
  [.issueRootSigned identity root ⟨1, 0⟩, .delegateSigned identity delegation ⟨2, 0⟩,
    .revokeSigned identity revocation ⟨1, 0⟩, .authorizeSemantic use]

def delegated (s : CapabilityAuthority) : Bool :=
  match s.heads with
  | [parent, child] =>
    parent.parent.isNone && child.parent = some delegation.parent &&
      parent.capabilityId = delegation.parent.capabilityId &&
      child.capabilityId = use.handle.capabilityId
  | _ => false

/-- The revocation is answered with a receipt, while both capabilities are stored. -/
def revokedThenUsed
    (h : List (Event CapabilityAuthority CapabilityCall (Result CapabilityAnswer))) : Bool :=
  match h with
  | [_, _, ⟨_, _, .ok (.revocation (.revoked _))⟩, later] => delegated later.pre
  | _ => false

lemma descendsFrom_of_delegated (h : delegated s) :
    s.DescendsFrom use.handle revocation.handle.capabilityId := by
  unfold delegated at h
  split at h
  · next parent child hheads =>
    simp only [Bool.and_eq_true, decide_eq_true_eq, Option.isNone_iff_eq_none] at h
    obtain ⟨⟨⟨hroot, hlink⟩, hparent⟩, hchild⟩ := h
    have hmem : parent ∈ s.heads ∧ child ∈ s.heads := by simp [hheads]
    exact ⟨child, hmem.2, hchild, [child, parent],
      .child ⟨hmem.2, hmem.1, _, hlink, hparent⟩ (.root hroot), parent, by simp, hparent⟩
  · cases h

end Sample

theorem revocation_transitive_permanent_delegated :
    ∃ h₁ e later t, Run step .new (h₁ ++ [e, later]) t ∧
      later.pre.DescendsFrom Sample.use.handle Sample.revocation.handle.capabilityId ∧
      ∀ answer, later.output = .ok answer → answer.exercises = false := by
  have hcheck : runCheck step .new Sample.revokedCalls (fun h _ => Sample.revokedThenUsed h) =
      true := by decide +kernel
  obtain ⟨h, t, hrun, hinputs, hused⟩ := exists_run_of_runCheck hcheck
  unfold Sample.revokedThenUsed at hused
  split at hused
  · next e₁ e₂ pre input receipt later =>
    have hdescends := Sample.descendsFrom_of_delegated hused
    simp only [Sample.revokedCalls, map_cons, map_nil, List.cons.injEq, and_true]
      at hinputs
    obtain ⟨-, -, hrevoke, huse⟩ := hinputs
    refine ⟨[e₁, e₂], _, later, t, hrun, hdescends, ?_⟩
    have hsplit : Run step .new ([e₁, e₂] ++ ⟨pre, input, .ok (.revocation (.revoked receipt))⟩ ::
        [later]) t := hrun
    exact revocation_transitive_permanent hsplit hrevoke rfl later
      mem_cons_self Sample.use.handle (by rw [huse]; rfl) hdescends
  · cases hused

end CapabilityAuthority

end Nlos.Capability
