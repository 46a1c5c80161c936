import Nlos.Lib.Ancestry
import Nlos.Lib.Run
import Nlos.Capability.Attenuation

/-!
# Confinement

A delegation compares a child with its parent only, and an admission looks only at the capability
it is asked about, apart from the revocations and validity times of the ancestors. That an
admitted use is within the terms of every ancestor is a property of the whole store: each stored
child attenuates its stored parent, and this is kept by every call.
-/

namespace Nlos.Capability

open Lib List

namespace CapabilityAuthority

variable {s t : CapabilityAuthority}

variable {record : CapabilityRecord}

lemma exists_head_of_loadCurrentRecord
    (h : s.loadCurrentRecord capabilityId = some record) :
    ∃ head ∈ s.heads, head.capabilityId = capabilityId ∧
      record.handle = ⟨capabilityId, head.currentGeneration⟩ ∧
      record.toCapabilityTerms = head.toCapabilityTerms := by
  simp only [loadCurrentRecord, loadRecordGeneration, Option.bind_eq_bind,
    Option.bind_eq_some_iff, Option.pure_def, Option.some.injEq] at h
  obtain ⟨head, hhead, head', hhead', version, -, rfl⟩ := h
  obtain rfl : head = head' := Option.some.inj (hhead.symm.trans hhead')
  exact ⟨head, mem_of_find?_eq_some hhead, by simpa using find?_some hhead, rfl, rfl⟩

variable {handle : CapabilityHandle}

lemma loadExactCurrent_eq_ok : s.loadExactCurrent handle = .ok record ↔
      s.loadCurrentRecord handle.capabilityId = some record ∧
        record.handle.generation = handle.generation := by
  simp only [loadExactCurrent, bind_eq_ok, orRefuse_eq_ok, refuseIf_eq_ok, pure_eq_ok, ne_eq,
    not_not]
  constructor
  · rintro ⟨current, hload, -, hgeneration, rfl⟩
    exact ⟨hload, hgeneration⟩
  · rintro ⟨hload, hgeneration⟩
    exact ⟨record, hload, (), hgeneration, rfl⟩

lemma exists_head_of_loadExactCurrent (h : s.loadExactCurrent handle = .ok record) :
    ∃ head ∈ s.heads, head.capabilityId = handle.capabilityId ∧
      record.toCapabilityTerms = head.toCapabilityTerms := by
  obtain ⟨head, hmem, hid, -, hterms⟩ :=
    exists_head_of_loadCurrentRecord (loadExactCurrent_eq_ok.mp h).1
  exact ⟨head, hmem, hid, hterms⟩

/-- A new capability is a root, or it attenuates a parent that is stored and current. -/
def Grounded (s : CapabilityAuthority) (terms : CapabilityTerms) : Prop :=
  terms.parent = none ∨ ∃ handle parent, terms.parent = some handle ∧
    s.loadExactCurrent handle = .ok parent ∧ terms.Attenuates parent.toCapabilityTerms ∧
    terms.delegationDepthRemaining < parent.delegationDepthRemaining

inductive Change (s : CapabilityAuthority) : CapabilityAuthority → Prop
  | quiet {t : CapabilityAuthority} (heads : t.heads = s.heads)
      (versions : t.versions = s.versions) : Change s t
  | issue {t : CapabilityAuthority} (record : CapabilityRecord)
      (grounded : s.Grounded record.toCapabilityTerms)
      (fresh : ∀ head ∈ s.heads, head.capabilityId ≠ record.handle.capabilityId)
      (heads : t.heads = s.heads ++ [newHead record])
      (versions : t.versions = s.versions ++ [⟨record.handle.capabilityId, .initial, none⟩]) :
      Change s t
  | revoke {t : CapabilityAuthority} (handle : CapabilityHandle) (nextGeneration : Generation)
      (revokedAtMs : U64) (next : handle.generation.checkedNext = some nextGeneration)
      (heads : t.heads = s.advanceHead handle nextGeneration) (versions : t.versions =
        s.versions ++ [⟨handle.capabilityId, nextGeneration, some revokedAtMs⟩]) : Change s t

lemma change_of_insertCapability {receipt idempotencyKey requestDigest}
    (hgrounded : s.Grounded record.toCapabilityTerms)
    (h : s.insertCapability record receipt idempotencyKey requestDigest = .ok t) : s.Change t := by
  simp only [insertCapability, bind_eq_ok, insertOrRefuse_eq_ok, pure_eq_ok] at h
  obtain ⟨-, -, -, -, -, -, -, -, -, -, heads, ⟨hfresh, rfl⟩, versions, ⟨-, rfl⟩, receipts, -,
    rfl⟩ := h
  exact .issue record hgrounded hfresh rfl rfl

variable {identity : IdentityAuthority} {proof : CommandSignatureProof}

lemma change_of_replay {α : Type} {stored decision : α}
    (h : (pure (s, stored) : Result _) = .ok (t, decision)) : s.Change t := by
  obtain ⟨rfl, -⟩ := Prod.mk.inj (pure_eq_ok.mp h)
  exact .quiet rfl rfl

lemma change_of_issueRootImpl
    (h : s.issueRootImpl identity request proof = .ok (t, decision)) : s.Change t := by
  rw [issueRootImpl, bind_eq_ok] at h
  obtain ⟨-, -, h⟩ := h
  rw [bind_eq_ok] at h
  obtain ⟨replay, -, h⟩ := h
  cases replay with
  | some => exact change_of_replay h
  | none =>
    simp only [bind_eq_ok, pure_eq_ok, Prod.mk.injEq] at h
    obtain ⟨-, -, issuer, -, -, -, holder, -, s', hinsert, rfl, -⟩ := h
    exact change_of_insertCapability (.inl rfl) hinsert

lemma change_of_delegateImpl
    (h : s.delegateImpl identity request proof = .ok (t, decision)) : s.Change t := by
  rw [delegateImpl, bind_eq_ok] at h
  obtain ⟨-, -, h⟩ := h
  rw [bind_eq_ok] at h
  obtain ⟨replay, -, h⟩ := h
  cases replay with
  | some => exact change_of_replay h
  | none =>
    simp only [bind_eq_ok, pure_eq_ok, Prod.mk.injEq] at h
    obtain ⟨parent, hparent, -, -, -, -, delegator, -, -, -, -, -, recipient, -, _, hcheck, s',
      hinsert, rfl, -⟩ := h
    obtain ⟨hattenuates, hdepth⟩ := attenuates_of_checkAttenuation hcheck
    exact change_of_insertCapability
      (.inr ⟨request.parent, parent, rfl, hparent, hattenuates, hdepth⟩) hinsert

lemma change_of_revokeImpl {request decision}
    (h : s.revokeImpl identity request proof = .ok (t, decision)) : s.Change t := by
  rw [revokeImpl, bind_eq_ok] at h
  obtain ⟨replay, -, h⟩ := h
  cases replay with
  | some => exact change_of_replay h
  | none =>
    simp only [bind_eq_ok, orRefuse_eq_ok, insertOrRefuse_eq_ok, pure_eq_ok, Prod.mk.injEq] at h
    obtain ⟨record, hrecord, -, -, -, -, revoker, -, -, -, -, -, nextGeneration, hnext, -, -, -,
      -, versions, ⟨-, rfl⟩, -, -, receipts, -, rfl, -⟩ := h
    obtain ⟨hload, hgeneration⟩ := loadExactCurrent_eq_ok.mp hrecord
    obtain ⟨head, -, -, hhandle, -⟩ := exists_head_of_loadCurrentRecord hload
    refine .revoke request.handle nextGeneration request.revokedAtMs (hgeneration ▸ hnext) rfl ?_
    rw [hhandle]

lemma change_of_consume (h : s.consume request = .ok (t, decision)) :
    s.Change t := by
  rw [consume, bind_eq_ok] at h
  obtain ⟨replay, -, h⟩ := h
  cases replay with
  | some => exact change_of_replay h
  | none =>
    simp only [bind_eq_ok, pure_eq_ok, Prod.mk.injEq] at h
    obtain ⟨-, -, -, -, -, -, -, -, -, -, rows, -, rfl, -⟩ := h
    exact .quiet rfl rfl

lemma change_of_call {call answer} (h : s.call call = .ok (t, answer)) : s.Change t := by
  cases call with
  | issueRootSigned =>
    obtain ⟨decision, hcall, -⟩ := map_snd_eq_ok.mp h
    exact change_of_issueRootImpl hcall
  | delegateSigned =>
    obtain ⟨decision, hcall, -⟩ := map_snd_eq_ok.mp h
    exact change_of_delegateImpl hcall
  | revokeSigned =>
    obtain ⟨decision, hcall, -⟩ := map_snd_eq_ok.mp h
    exact change_of_revokeImpl hcall
  | consume =>
    obtain ⟨decision, hcall, -⟩ := map_snd_eq_ok.mp h
    exact change_of_consume hcall
  | authorizeSemantic =>
    obtain rfl := eq_of_map h
    exact .quiet rfl rfl
  | callLimitRemaining =>
    obtain rfl := eq_of_map h
    exact .quiet rfl rfl
  | inspectActive =>
    obtain rfl := eq_of_map h
    exact .quiet rfl rfl

/-- Every call stores a capability whose parents are stored, advances one head, or changes neither
table. -/
lemma change_of_step {call answer} (h : s.step call = .ok (t, answer)) : s.Change t := by
  have hcommit : commit s (s.call call) = (t, answer) := Except.ok.inj h
  cases answer with
  | ok => exact change_of_call (commit_eq_ok.mp hcommit)
  | error =>
    obtain ⟨-, rfl⟩ := commit_eq_error.mp hcommit
    exact .quiet rfl rfl

/-! ## The stored hierarchy -/

def ParentOf (s : CapabilityAuthority) (child parent : CapabilityHead) : Prop :=
  child ∈ s.heads ∧ parent ∈ s.heads ∧
    ∃ handle, child.parent = some handle ∧ parent.capabilityId = handle.capabilityId

def ParentChain (s : CapabilityAuthority) : CapabilityHead → List CapabilityHead → Prop :=
  Lineage (fun head => head.parent = none) s.ParentOf

/-- Identities are unique, and every stored child attenuates a stored parent. -/
structure Sound (s : CapabilityAuthority) : Prop where
  distinct : (s.heads.map CapabilityHead.capabilityId).Nodup
  attenuated : ∀ head ∈ s.heads, ∀ handle, head.parent = some handle →
    ∃ parent ∈ s.heads, parent.capabilityId = handle.capabilityId ∧
      head.Attenuates parent.toCapabilityTerms ∧
      head.delegationDepthRemaining < parent.delegationDepthRemaining

lemma sound_new : Sound .new where
  distinct := nodup_nil
  attenuated _ hhead := absurd hhead not_mem_nil

def Keeps (s t : CapabilityAuthority) : Prop :=
  ∀ head ∈ s.heads, ∃ head' ∈ t.heads, head'.capabilityId = head.capabilityId ∧
    head'.toCapabilityTerms = head.toCapabilityTerms

variable {head : CapabilityHead}

lemma exists_of_mem_advanceHead {next} (h : head ∈ s.advanceHead handle next) :
    ∃ old ∈ s.heads, old.capabilityId = head.capabilityId ∧
      old.toCapabilityTerms = head.toCapabilityTerms := by
  obtain ⟨old, hold, rfl | ⟨-, rfl⟩⟩ := exists_of_mem_updateRows h
  · exact ⟨_, hold, rfl, rfl⟩
  · exact ⟨old, hold, rfl, rfl⟩

lemma map_capabilityId_advanceHead (handle : CapabilityHandle) (next : Generation) :
    (s.advanceHead handle next).map CapabilityHead.capabilityId =
      s.heads.map CapabilityHead.capabilityId := by
  rw [advanceHead, updateRows, map_map]
  refine map_congr_left fun head _ => ?_
  simp only [Function.comp_apply]
  split_ifs <;> rfl

lemma keeps_of_change (h : s.Change t) : s.Keeps t := by
  intro head hhead
  cases h with
  | quiet heads => exact ⟨head, heads ▸ hhead, rfl, rfl⟩
  | issue record grounded fresh heads =>
    exact ⟨head, heads ▸ mem_append_left _ hhead, rfl, rfl⟩
  | revoke handle next revokedAtMs hnext heads =>
    obtain ⟨head', hhead', hsame⟩ := exists_mem_updateRows
      (p := fun h => h.capabilityId = handle.capabilityId ∧ h.currentGeneration = handle.generation)
      (f := fun h => { h with currentGeneration := next })
      (fun h => (h.capabilityId, h.toCapabilityTerms)) (fun _ => rfl) hhead
    obtain ⟨hid, hterms⟩ := Prod.mk.inj hsame
    exact ⟨head', heads ▸ hhead', hid, hterms⟩

lemma attenuated_of_keeps (hkeeps : s.Keeps t) {terms : CapabilityTerms}
    (h : ∃ parent ∈ s.heads, parent.capabilityId = handle.capabilityId ∧
      terms.Attenuates parent.toCapabilityTerms ∧
      terms.delegationDepthRemaining < parent.delegationDepthRemaining) :
    ∃ parent ∈ t.heads, parent.capabilityId = handle.capabilityId ∧
      terms.Attenuates parent.toCapabilityTerms ∧
      terms.delegationDepthRemaining < parent.delegationDepthRemaining := by
  obtain ⟨parent, hparent, hid, hattenuates, hdepth⟩ := h
  obtain ⟨parent', hparent', hid', hterms⟩ := hkeeps parent hparent
  refine ⟨parent', hparent', hid'.trans hid, ?_, ?_⟩
  · rw [hterms]
    exact hattenuates
  · rw [hterms]
    exact hdepth

lemma sound_of_change (hs : s.Sound) (h : s.Change t) : t.Sound := by
  have hkeeps := keeps_of_change h
  cases h with
  | quiet heads =>
    exact ⟨heads ▸ hs.distinct, heads ▸ hs.attenuated⟩
  | issue record grounded fresh heads =>
    refine ⟨?_, fun head hhead handle hparent => attenuated_of_keeps hkeeps ?_⟩
    · rw [heads, map_append, nodup_append]
      refine ⟨hs.distinct, nodup_singleton _, ?_⟩
      rintro _ hold _ hnew rfl
      obtain ⟨head, hhead, hid⟩ := mem_map.mp hold
      exact fresh head hhead (hid.trans (mem_singleton.mp hnew))
    · rw [heads, mem_append, mem_singleton] at hhead
      rcases hhead with hhead | rfl
      · exact hs.attenuated head hhead handle hparent
      · -- The parent of a new capability was loaded, so it is stored.
        rcases grounded with hroot | ⟨handle', parent, hlink, hload, hattenuates, hdepth⟩
        · exact absurd (hroot.symm.trans hparent) (by simp)
        · obtain rfl : handle' = handle := Option.some.inj (hlink.symm.trans hparent)
          obtain ⟨stored, hstored, hid, hterms⟩ := exists_head_of_loadExactCurrent hload
          exact ⟨stored, hstored, hid, hterms ▸ hattenuates, hterms ▸ hdepth⟩
  | revoke handle next revokedAtMs hnext heads =>
    refine ⟨?_, fun head hhead link hparent => attenuated_of_keeps hkeeps ?_⟩
    · rw [heads, map_capabilityId_advanceHead]
      exact hs.distinct
    · rw [heads] at hhead
      obtain ⟨old, hold, -, hterms⟩ := exists_of_mem_advanceHead hhead
      rw [← hterms] at hparent ⊢
      exact hs.attenuated old hold link hparent

lemma sound_of_run (hrun : Run step .new h s) : s.Sound :=
  hrun.invariant (P := Sound) sound_new fun hs hstep => sound_of_change hs (change_of_step hstep)

lemma Sound.attenuates (hs : s.Sound) (h : s.ParentOf child parent) :
    child.Attenuates parent.toCapabilityTerms ∧
      child.delegationDepthRemaining < parent.delegationDepthRemaining := by
  obtain ⟨hchild, hparent, handle, hlink, hid⟩ := h
  obtain ⟨parent', hparent', hid', hbelow⟩ := hs.attenuated child hchild handle hlink
  obtain rfl : parent' = parent :=
    inj_on_of_nodup_map hs.distinct hparent' hparent (hid'.trans hid.symm)
  exact hbelow

lemma depth_lt (head : CapabilityHead) : head.delegationDepthRemaining.val < 256 :=
  head.delegationDepthRemaining.isLt.trans_eq (pow_one 256)

lemma Sound.exists_parentChain (hs : s.Sound) (hhead : head ∈ s.heads) :
    ∃ chain, s.ParentChain head chain := by
  refine exists_lineage (P := (· ∈ s.heads)) depth_lt (fun child hchild => ?_) hhead
  cases hlink : child.parent with
  | none => exact .inl rfl
  | some handle =>
    obtain ⟨parent, hparent, hid, -, hdepth⟩ := hs.attenuated child hchild handle hlink
    exact .inr ⟨parent, hparent, ⟨hchild, hparent, handle, hlink, hid⟩, hdepth⟩

variable {chain : List CapabilityHead}

lemma Sound.attenuates_of_mem (hs : s.Sound) (hchain : s.ParentChain head chain) :
    ∀ a ∈ chain, head.Attenuates a.toCapabilityTerms := by
  apply Lineage.rel_of_mem (R := fun x y => x.Attenuates y.toCapabilityTerms) ?_ ?_ ?_ hchain
  · exact fun x => .refl x.toCapabilityTerms
  · exact fun _ _ _ hxy hyz => hxy.trans hyz
  · exact fun _ _ hxy => (hs.attenuates hxy).1

lemma Sound.pairwise_depth (hs : s.Sound) (hchain : s.ParentChain head chain) :
    chain.Pairwise fun x y => x.delegationDepthRemaining < y.delegationDepthRemaining := by
  have hrank ⦃x y : CapabilityHead⦄ (hxy : s.ParentOf x y) :
      x.delegationDepthRemaining.val < y.delegationDepthRemaining.val := (hs.attenuates hxy).2
  exact hchain.pairwise_rank hrank

lemma Sound.length_chain_le (hs : s.Sound)
    (hchain : s.ParentChain head chain) : chain.length ≤ 256 := by
  have hrank ⦃x y : CapabilityHead⦄ (hxy : s.ParentOf x y) :
      x.delegationDepthRemaining.val < y.delegationDepthRemaining.val := (hs.attenuates hxy).2
  have hlength := hchain.rank_add_length_le hrank depth_lt
  omega

/-- A walk does not run out of turns while the turns left cover the depths still to come. -/
lemma Sound.validateChainFrom_ne (hs : s.Sound)
    (hhead : head ∈ s.heads) (hterms : record.toCapabilityTerms = head.toCapabilityTerms)
    (hturns : 256 ≤ turns + head.delegationDepthRemaining.val) :
    s.validateChainFrom atMs turns depth record ≠
      .error (.corruptRecord "capability ancestor chain exceeds 256") := by
  induction turns generalizing depth record head with
  | zero =>
    have := depth_lt head
    omega
  | succ turns ih =>
    intro hwalk
    simp only [validateChainFrom, bind_eq_error, refuseIf] at hwalk
    rcases hwalk with hrevoked | ⟨-, -, hearly | ⟨-, -, hlate | ⟨-, -, hparent⟩⟩⟩
    · split_ifs at hrevoked <;> simp at hrevoked
    · split_ifs at hearly
      simp at hearly
    · split_ifs at hlate
      simp at hlate
    · cases hlink : record.parent with
      | none => simp [hlink, pure, Except.pure] at hparent
      | some handle =>
        rw [hlink] at hparent
        simp only [bind_eq_error] at hparent
        rcases hparent with hload | ⟨parent, hload, hfence | ⟨-, -, hnext⟩⟩
        · unfold orRefuse at hload
          split at hload <;> simp at hload
        · split_ifs at hfence
          simp at hfence
        · rw [orRefuse_eq_ok] at hload
          obtain ⟨stored, hstored, hid, -, hsame⟩ := exists_head_of_loadCurrentRecord hload
          have hlink' : head.parent = some handle := by
            rw [← hterms]
            exact hlink
          have hdepth : head.delegationDepthRemaining.val < stored.delegationDepthRemaining.val :=
            (hs.attenuates ⟨hhead, hstored, handle, hlink', hid⟩).2
          exact ih hstored hsame (by omega) hnext

lemma Sound.validateActiveChain_ne (hs : s.Sound)
    (hload : s.loadExactCurrent handle = .ok record) : s.validateActiveChain record atMs ≠
      .error (.corruptRecord "capability ancestor chain exceeds 256") := by
  obtain ⟨head, hhead, -, hterms⟩ := exists_head_of_loadExactCurrent hload
  exact hs.validateChainFrom_ne hhead hterms (Nat.le_add_right 256 _)

lemma valid_of_validateChainFrom
    (h : s.validateChainFrom atMs turns depth record = .ok u) :
    record.validFromMs ≤ atMs ∧ atMs ≤ record.validUntilMs := by
  cases turns with
  | zero => simp [validateChainFrom] at h
  | succ =>
    simp only [validateChainFrom, bind_eq_ok, refuseIf_eq_ok, not_lt] at h
    obtain ⟨-, -, -, hfrom, -, huntil, -⟩ := h
    exact ⟨hfrom, huntil⟩

end CapabilityAuthority

/-! ## Confined uses -/

def CapabilityCall.use? : CapabilityCall → Option AuthorizeSemanticRequest
  | .authorizeSemantic request => some request
  | .consume request => some {
      handle := request.handle
      signer := request.signer
      target := request.target
      requiredRight := request.requiredRight
      purposeDigest := request.purposeDigest
      admittedAtMs := request.consumedAtMs }
  | _ => none

def CapabilityAnswer.admits : CapabilityAnswer → Bool
  | .authorization _ => true
  | .consumption (.consumed _) => true
  | _ => false

structure CapabilityTerms.Allows (a c : CapabilityTerms) (use : AuthorizeSemanticRequest) :
    Prop where
  right : a.rights.contains use.requiredRight
  target : targetIsWithin use.target a.target
  time : a.validFromMs ≤ use.admittedAtMs ∧ use.admittedAtMs ≤ a.validUntilMs
  purpose : a.purposeDigest = none ∨ a.purposeDigest = use.purposeDigest
  callLimit : ∀ limit ∈ a.callLimit, ∃ own ∈ c.callLimit, own ≤ limit

namespace CapabilityAuthority

variable {s t : CapabilityAuthority}

/-- The capability `c` named by a use has a chain of at most 256 members, all of which allow it,
and the delegation depth decreases from the root to `c`. -/
def Confined (s : CapabilityAuthority) (use : AuthorizeSemanticRequest) : Prop :=
  ∃ c ∈ s.heads, c.capabilityId = use.handle.capabilityId ∧ (∃ chain, s.ParentChain c chain) ∧
    ∀ chain, s.ParentChain c chain →
      (∀ a ∈ chain, a.Allows c.toCapabilityTerms use) ∧
      chain.Pairwise (fun x y => x.delegationDepthRemaining < y.delegationDepthRemaining) ∧
      chain.length ≤ 256

lemma confined_of_admitSemantic (hs : s.Sound)
    (h : s.admitSemantic use.handle use.signer use.target use.requiredRight use.purposeDigest
      use.admittedAtMs = .ok record) : s.Confined use := by
  simp only [admitSemantic, bind_eq_ok, refuseIf_eq_ok, pure_eq_ok, not_not] at h
  obtain ⟨record', hload, _, hwalk, -, -, -, htarget, -, hright, -, hpurpose, -⟩ := h
  obtain ⟨c, hc, hid, hterms⟩ := exists_head_of_loadExactCurrent hload
  have hvalid := valid_of_validateChainFrom hwalk
  rw [hterms] at htarget hright hpurpose hvalid
  refine ⟨c, hc, hid, hs.exists_parentChain hc, fun chain hchain =>
    ⟨fun a ha => ?_, hs.pairwise_depth hchain, hs.length_chain_le hchain⟩⟩
  have hbelow := hs.attenuates_of_mem hchain a ha
  exact {
    right := CapabilityRights.contains_trans hbelow.rights hright
    target := targetIsWithin_trans htarget hbelow.target
    time := ⟨hbelow.validFrom.trans hvalid.1, hvalid.2.trans hbelow.validUntil⟩
    purpose := hpurpose ▸ hbelow.purpose
    callLimit := hbelow.callLimit }

lemma confined_of_call (hs : s.Sound) {call answer use} (huse : call.use? = some use)
    (hadmits : answer.admits)
    (h : s.call call = .ok (t, answer)) : s.Confined use := by
  cases call with
  | authorizeSemantic request =>
    obtain rfl : request = use := Option.some.inj huse
    obtain ⟨authorization, hcall, -⟩ := map_eq_ok.mp h
    rw [authorizeSemantic, bind_eq_ok] at hcall
    obtain ⟨record, hrecord, -⟩ := hcall
    exact confined_of_admitSemantic hs hrecord
  | consume =>
    obtain rfl := Option.some.inj huse
    obtain ⟨decision, hcall, rfl⟩ := map_snd_eq_ok.mp h
    rw [consume, bind_eq_ok] at hcall
    obtain ⟨replay, -, hcall⟩ := hcall
    cases replay with
    | some =>
      obtain ⟨-, rfl⟩ := Prod.mk.inj (pure_eq_ok.mp hcall)
      simp [CapabilityAnswer.admits] at hadmits
    | none =>
      rw [bind_eq_ok] at hcall
      obtain ⟨record, hrecord, -⟩ := hcall
      exact confined_of_admitSemantic hs hrecord
  | _ => simp [CapabilityCall.use?] at huse

/-- Every admitted use of every history is within the terms of the whole chain of the capability it
names, and no walk along a chain runs out of turns. -/
theorem capability_confinement
    {h : List (Event CapabilityAuthority CapabilityCall (Result CapabilityAnswer))}
    (hrun : Run step .new h s) :
    (∀ e ∈ h, ∀ use answer, e.input.use? = some use → e.output = .ok answer → answer.admits →
      e.pre.Confined use) ∧
    ∀ t ∈ states h s, ∀ handle record atMs, t.loadExactCurrent handle = .ok record →
      t.validateActiveChain record atMs ≠
        .error (.corruptRecord "capability ancestor chain exceeds 256") := by
  constructor
  · intro e he use answer huse hanswer hadmits
    obtain ⟨h₁, h₂, rfl⟩ := append_of_mem he
    obtain ⟨hbefore, t, hstep, -⟩ := hrun.split
    have hcommit : commit e.pre (e.pre.call e.input) = (t, .ok answer) := by
      rw [← hanswer]
      exact Except.ok.inj hstep
    exact confined_of_call (sound_of_run hbefore) huse hadmits (commit_eq_ok.mp hcommit)
  · intro t ht handle record atMs hload
    obtain ⟨h₁, h₂, -, hbefore, -⟩ := hrun.split_at ht
    exact (sound_of_run hbefore).validateActiveChain_ne hload

namespace Sample

def identity : IdentityAuthority where
  inspectCurrentBinding keyId := .ok ⟨keyId, 0, keyId, 0, 1000, none⟩
  verifyCapabilityCommandSignature _ principalId _ _ := .ok ⟨principalId, principalId⟩

def root : IssueRootCapabilityRequest where
  issuerKeyId := 1
  holderKeyId := 2
  target := .namespaced (Word.ofBytes 16 (0x44 :: List.replicate 15 0))
  rights := ⟨1 ||| 8, by decide⟩
  purposeDigest := none
  validFromMs := 0
  validUntilMs := 100
  delegationDepthRemaining := 3
  callLimit := some 9
  idempotencyKey := 1
  issuedAtMs := 5

def delegation : DelegateCapabilityRequest where
  parent := ⟨Sha256.taggedId "nlos/capability/id/v1" [(rootRequestDigest root).bytes], .initial⟩
  delegatorKeyId := 2
  recipientKeyId := 3
  target := .namespaced (Word.ofBytes 16 (0x44 :: 0x55 :: List.replicate 14 0))
  rights := .semanticAppend
  purposeDigest := some 7
  validFromMs := 10
  validUntilMs := 50
  delegationDepthRemaining := 2
  callLimit := some 4
  idempotencyKey := 2
  delegatedAtMs := 20

def use : AuthorizeSemanticRequest where
  handle :=
    ⟨Sha256.taggedId "nlos/capability/id/v1" [(delegateRequestDigest delegation).bytes], .initial⟩
  signer := ⟨3, 0⟩
  target := .namespaced (Word.ofBytes 16 (0x44 :: 0x55 :: 0x66 :: List.replicate 13 0))
  requiredRight := .semanticAppend
  purposeDigest := some 7
  admittedAtMs := 30

def calls : List CapabilityCall :=
  [.issueRootSigned identity root ⟨1, 0⟩, .delegateSigned identity delegation ⟨2, 0⟩,
    .authorizeSemantic use]

def admitted (e : Event CapabilityAuthority CapabilityCall (Result CapabilityAnswer)) : Bool :=
  match e.output with
  | .ok answer => e.input.use? = some use && answer.admits
  | .error _ => false

/-- A root, a delegation from it and a use of the delegated capability, which is admitted. -/
lemma exists_admitted : ∃ h s, Run step .new h s ∧ ∃ e ∈ h, admitted e := by
  have hcheck : runCheck step .new calls (fun h _ => h.any admitted) = true := by decide +kernel
  obtain ⟨h, s, hrun, -, hany⟩ := exists_run_of_runCheck hcheck
  exact ⟨h, s, hrun, any_eq_true.mp hany⟩

end Sample

theorem capability_confinement_delegated :
    ∃ h s, Run step .new h s ∧ ∃ e ∈ h, Sample.admitted e ∧ e.pre.Confined Sample.use := by
  obtain ⟨h, s, hrun, e, he, hadmitted⟩ := Sample.exists_admitted
  refine ⟨h, s, hrun, e, he, hadmitted, ?_⟩
  unfold Sample.admitted at hadmitted
  split at hadmitted
  · next answer hanswer =>
    obtain ⟨huse, hadmits⟩ := Bool.and_eq_true_iff.mp hadmitted
    exact (capability_confinement hrun).1 e he Sample.use answer (of_decide_eq_true huse) hanswer
      hadmits
  · simp at hadmitted

/-- A stored capability survives every run with its terms. -/
lemma keeps_of_run (hrun : Run step s h t) : s.Keeps t := by
  induction hrun with
  | refl => exact fun head hhead => ⟨head, hhead, rfl, rfl⟩
  | snoc _ hstep ih =>
    intro head hhead
    obtain ⟨mid, hmid, hid, hterms⟩ := ih head hhead
    obtain ⟨last, hlast, hid', hterms'⟩ := keeps_of_change (change_of_step hstep) mid hmid
    exact ⟨last, hlast, hid'.trans hid, hterms'.trans hterms⟩

/-- In every history a stored capability keeps its terms, which are within those of each of its
ancestors, at most 256 of them with itself. -/
theorem delegation_attenuates (hrun : Run step .new h s) : (∀ t ∈ states h s, t.Keeps s) ∧
    ∀ c ∈ s.heads, ∃ chain, s.ParentChain c chain ∧ chain.length ≤ 256 ∧
      ∀ a ∈ chain, c.Attenuates a.toCapabilityTerms := by
  have hs := sound_of_run hrun
  constructor
  · intro t ht
    obtain ⟨h₁, h₂, -, -, hafter⟩ := hrun.split_at ht
    exact keeps_of_run hafter
  · intro c hc
    obtain ⟨chain, hchain⟩ := hs.exists_parentChain hc
    exact ⟨chain, hchain, hs.length_chain_le hchain, hs.attenuates_of_mem hchain⟩

theorem delegation_attenuates_delegated :
    ∃ h s, Run step .new h s ∧ (∃ e ∈ h, Sample.admitted e) ∧ (∀ t ∈ states h s, t.Keeps s) ∧
      ∀ c ∈ s.heads, ∃ chain, s.ParentChain c chain ∧ chain.length ≤ 256 ∧
        ∀ a ∈ chain, c.Attenuates a.toCapabilityTerms := by
  obtain ⟨h, s, hrun, hadmitted⟩ := Sample.exists_admitted
  exact ⟨h, s, hrun, hadmitted, delegation_attenuates hrun⟩

end CapabilityAuthority

end Nlos.Capability
