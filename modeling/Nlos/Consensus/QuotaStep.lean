import Nlos.Consensus.StateMachine

/-!
# What a command does to quota pools, quota leases and fences

Only three commands touch the quota tables.
-/

namespace Nlos.Consensus

open Lib

namespace ControlPlaneTables

def quotaFence? (t : ControlPlaneTables) : ControlPlaneCommand → Option (Word 16 × CellFencingToken)
  | .rootLeasePoolMutation (.allocateQuotaLease _ _ _ _ _ _ token scope) => some (scope, token)
  | .rootLeasePoolMutation (.settleOrQuarantineQuotaLease id _ _ _ _ token) =>
    t.quotaLeases[id]?.map fun l => (l.fenceScope, token)
  | _ => none

inductive QuotaStep (logIndex : NonZeroU64) (t : ControlPlaneTables) :
    ControlPlaneCommand → Option ControlPlaneDomainRejection → ControlPlaneTables → Prop
  | registered {root : Word 16} {initial : U64} {t' : ControlPlaneTables}
      (hnew : t.quotaPools[root]? = none)
      (hpools : t'.quotaPools = t.quotaPools.insert root ⟨initial, 0, 0⟩)
      (hleases : t'.quotaLeases = t.quotaLeases)
      (hfences : t'.fenceScopeHighWater = t.fenceScopeHighWater) :
      QuotaStep logIndex t (.rootLeasePoolMutation (.registerQuotaPool root initial)) none t'
  | allocated {id : QuotaLeaseId} {root : Word 16} {holder : CellIdentity} {gen : Generation}
      {face : U64} {epoch : CellEpoch} {token : CellFencingToken} {scope : Word 16}
      {pool : QuotaPoolBalance} {t' : ControlPlaneTables} (hnew : t.quotaLeases[id]? = none)
      (hfence : ∀ prev, t.fenceScopeHighWater[scope]? = some prev → prev < token)
      (hpool : t.quotaPools[root]? = some pool) (hface : face ≤ pool.available)
      (hpools : t'.quotaPools = t.quotaPools.insert root { pool with
          available := pool.available - face
          leasedActive := Word.saturatingAdd pool.leasedActive face })
      (hleases : t'.quotaLeases = t.quotaLeases.insert id
        ⟨id, root, holder, gen, face, 0, 0, epoch, token, scope, .active, logIndex⟩)
      (hfences : t'.fenceScopeHighWater = t.fenceScopeHighWater.insert scope token) :
      QuotaStep logIndex t (.rootLeasePoolMutation
        (.allocateQuotaLease id root holder gen face epoch token scope)) none t'
  | settled {id : QuotaLeaseId} {disposition : ReplicatedQuotaLeaseDisposition}
      {returned quarantined : U64} {epoch : CellEpoch} {token : CellFencingToken}
      {lease : ReplicatedQuotaLeaseEntry} {pool : QuotaPoolBalance} {t' : ControlPlaneTables}
      (hlease : t.quotaLeases[id]? = some lease) (hactive : lease.disposition = .active)
      (hsettles : disposition ≠ .active)
      (hfence : ∀ prev, t.fenceScopeHighWater[lease.fenceScope]? = some prev → prev < token)
      (htotal : returned.val + quarantined.val ≤ lease.faceValue.val)
      (hpool : t.quotaPools[lease.budgetRoot]? = some pool)
      (hpools : t'.quotaPools = t.quotaPools.insert lease.budgetRoot
        { available := Word.saturatingAdd pool.available returned
          leasedActive := Word.saturatingSub pool.leasedActive lease.faceValue
          quarantined := Word.saturatingAdd pool.quarantined quarantined })
      (hleases : t'.quotaLeases = t.quotaLeases.insert id { lease with
          disposition, returnedAmount := returned, quarantinedAmount := quarantined, epoch
          fencingToken := token, committedAtIndex := logIndex })
      (hfences : t'.fenceScopeHighWater = t.fenceScopeHighWater.insert lease.fenceScope token) :
      QuotaStep logIndex t (.rootLeasePoolMutation
        (.settleOrQuarantineQuotaLease id disposition returned quarantined epoch token)) none t'
  | unchanged {cmd : ControlPlaneCommand} {r : Option ControlPlaneDomainRejection}
      {t' : ControlPlaneTables} (hother : r = none → t.quotaFence? cmd = none)
      (hregister : r = none → ∀ root initial,
        cmd ≠ .rootLeasePoolMutation (.registerQuotaPool root initial))
      (hpools : t'.quotaPools = t.quotaPools) (hleases : t'.quotaLeases = t.quotaLeases)
      (hfences : t'.fenceScopeHighWater = t.fenceScopeHighWater) : QuotaStep logIndex t cmd r t'

variable {logIndex term : NonZeroU64} {t : ControlPlaneTables} {r : CommandResult}

lemma quotaStep_of_reject :
    QuotaStep logIndex t cmd (t.reject reason).2 (t.reject reason).1 :=
  .unchanged (by simp [reject]) (by simp [reject]) rfl rfl rfl

lemma quotaStep_of_registerQuotaPool (root : Word 16) (initial : U64) :
    QuotaStep logIndex t (.rootLeasePoolMutation (.registerQuotaPool root initial))
      (t.registerQuotaPool root initial).2 (t.registerQuotaPool root initial).1 := by
  unfold registerQuotaPool
  split
  · exact quotaStep_of_reject
  · next hnew => exact .registered (by simpa using hnew) rfl rfl rfl

lemma quotaStep_of_allocateQuotaLease (id : QuotaLeaseId) (root : Word 16)
    (holder : CellIdentity) (gen : Generation) (face : U64) (epoch : CellEpoch)
    (token : CellFencingToken) (scope : Word 16) :
    let res := t.allocateQuotaLease logIndex id root holder gen face epoch token scope
    QuotaStep logIndex t (.rootLeasePoolMutation
      (.allocateQuotaLease id root holder gen face epoch token scope)) res.2 res.1 := by
  simp only [allocateQuotaLease]
  split
  · exact quotaStep_of_reject
  · next hnew =>
    split
    · exact quotaStep_of_reject
    · next hfence =>
      split
      · exact quotaStep_of_reject
      · next pool hpool =>
        split
        · exact quotaStep_of_reject
        · next hface =>
          refine .allocated (by simpa using fun h => hnew (.inl h)) ?_ hpool
            (not_lt.mp hface) rfl rfl rfl
          intro prev hprev
          simpa [hprev] using hfence

lemma quotaStep_of_settleOrQuarantineQuotaLease {id disposition returned quarantined epoch token}
    (h : t.settleOrQuarantineQuotaLease logIndex id disposition returned quarantined epoch token =
      .ok r) : QuotaStep logIndex t (.rootLeasePoolMutation
      (.settleOrQuarantineQuotaLease id disposition returned quarantined epoch token)) r.2 r.1 := by
  have hrejected {reason : ControlPlaneDomainRejection}
      (hr : (.ok (t.reject reason) : Except String CommandResult) = .ok r) :
      QuotaStep logIndex t (.rootLeasePoolMutation
        (.settleOrQuarantineQuotaLease id disposition returned quarantined epoch token))
          r.2 r.1 := by
    cases hr
    exact quotaStep_of_reject
  unfold settleOrQuarantineQuotaLease at h
  split at h
  · exact hrejected h
  · next lease hlease =>
    split at h
    · exact hrejected h
    · next hdisp =>
      split at h
      · exact hrejected h
      · split at h
        · exact hrejected h
        · next hfence =>
          split at h
          · exact hrejected h
          · next total hadd =>
            split at h
            · exact hrejected h
            · next htotal =>
              split at h
              · exact hrejected h
              · split at h
                · cases h
                · next pool hpool =>
                  cases h
                  rw [Word.checkedAdd_eq_some_iff] at hadd
                  push Not at hdisp
                  refine .settled hlease hdisp.1 hdisp.2 ?_ ?_ hpool rfl rfl rfl
                  · intro prev hprev
                    simpa [hprev] using hfence
                  · rw [← hadd]
                    exact not_lt.mp htotal

lemma quotaStep_of_applyInner {cmd}
    (h : t.applyInner logIndex term cmd = .ok r) : QuotaStep logIndex t cmd r.2 r.1 := by
  rcases cmd with cmd | cmd | cmd | cmd
  · cases h
    obtain ⟨_, _, _, hframe⟩ := t.applyCellDirectory_frame logIndex cmd
    exact .unchanged (fun _ => rfl) (by simp) (by rw [hframe]) (by rw [hframe]) (by rw [hframe])
  · cases cmd with
    | registerQuotaPool =>
      cases h
      exact quotaStep_of_registerQuotaPool ..
    | allocateQuotaLease =>
      cases h
      exact quotaStep_of_allocateQuotaLease ..
    | settleOrQuarantineQuotaLease => exact quotaStep_of_settleOrQuarantineQuotaLease h
    | allocateCapacityLease =>
      cases h
      obtain ⟨_, _, hframe⟩ := t.allocateCapacityLease_frame logIndex ..
      exact .unchanged (fun _ => rfl) (by simp) (by rw [hframe]) (by rw [hframe])
        (by rw [hframe])
    | transitionExclusiveDeviceHead =>
      cases h
      obtain ⟨_, hframe⟩ := t.transitionExclusiveDeviceHead_frame logIndex ..
      exact .unchanged (fun _ => rfl) (by simp) (by rw [hframe]) (by rw [hframe])
        (by rw [hframe])
  · cases h
    obtain ⟨_, _, hframe⟩ := t.applyTaskAuthorityShard_frame logIndex term cmd
    exact .unchanged (fun _ => rfl) (by simp) (by rw [hframe]) (by rw [hframe]) (by rw [hframe])
  · cases h
    obtain ⟨_, _, hframe⟩ := t.applyControlPlaneAudit_frame logIndex cmd
    exact .unchanged (fun _ => rfl) (by simp) (by rw [hframe]) (by rw [hframe]) (by rw [hframe])

end ControlPlaneTables

end Nlos.Consensus
