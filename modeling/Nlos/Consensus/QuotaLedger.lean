import Nlos.Consensus.QuotaStep

/-!
# The quota ledger

Each budget root is a ledger: what it was registered with is split between the available balance,
the face values of active leases, and the quarantined and consumed parts of settled leases.
-/

namespace Nlos.Consensus

open Lib ReplicatedQuotaLeaseEntry ControlPlaneStateMachine ControlPlaneTables Table

variable {sm : ControlPlaneStateMachine}

namespace ReplicatedQuotaLeaseEntry

variable (l : ReplicatedQuotaLeaseEntry)

def activePart (root : Word 16) : ℕ :=
  if l.budgetRoot = root ∧ l.disposition = .active then l.faceValue.val else 0

def quarantinedPart (root : Word 16) : ℕ :=
  if l.budgetRoot = root ∧ l.disposition ≠ .active then l.quarantinedAmount.val else 0

def consumedPart (root : Word 16) : ℕ :=
  if l.budgetRoot = root ∧ l.disposition ≠ .active then
    l.faceValue.val - l.returnedAmount.val - l.quarantinedAmount.val
  else 0

end ReplicatedQuotaLeaseEntry

namespace ControlPlaneTables

def leasedActive (t : ControlPlaneTables) (root : Word 16) : ℕ :=
  Table.sum (fun l => l.activePart root) t.quotaLeases

def quarantined (t : ControlPlaneTables) (root : Word 16) : ℕ :=
  Table.sum (fun l => l.quarantinedPart root) t.quotaLeases

/-- The sum over the settled leases of a root of what was neither returned nor quarantined. -/
def consumed (t : ControlPlaneTables) (root : Word 16) : ℕ :=
  Table.sum (fun l => l.consumedPart root) t.quotaLeases

/-- A pool accounts for its root: the stored balances are the sums over the leases, and with
the available balance they add up to what was registered. -/
structure Balanced (t : ControlPlaneTables) (root : Word 16) (registered : U64)
    (pool : QuotaPoolBalance) : Prop where
  leasedActive_eq : pool.leasedActive.val = t.leasedActive root
  quarantined_eq : pool.quarantined.val = t.quarantined root
  conserved : pool.available.val + t.leasedActive root + t.quarantined root + t.consumed root =
    registered.val

variable {t : ControlPlaneTables}

namespace Balanced

variable {t' : ControlPlaneTables} {root other : Word 16} {A : U64} {pool : QuotaPoolBalance}
  {id : QuotaLeaseId} {l lease : ReplicatedQuotaLeaseEntry}

lemma available_add_lt (hb : t.Balanced root A pool) :
    pool.available.val + t.leasedActive root + t.quarantined root < 256 ^ 8 := by
  have hA := A.isLt
  have hsum := hb.conserved
  omega

lemma insert_other (hb : t.Balanced root A pool) (hnew : t.quotaLeases[id]? = none)
    (hleases : t'.quotaLeases = t.quotaLeases.insert id l) (hroot : l.budgetRoot ≠ root) :
    t'.Balanced root A pool := by
  obtain ⟨hleased, hquar, hsum⟩ := hb
  constructor <;>
    simpa [leasedActive, quarantined, consumed, hleases, sum_insert_of_none _ _ hnew,
      activePart, quarantinedPart, consumedPart, hroot]

lemma grant (hb : t.Balanced root A pool) (hnew : t.quotaLeases[id]? = none)
    (hleases : t'.quotaLeases = t.quotaLeases.insert id l) (hroot : l.budgetRoot = root)
    (hactive : l.disposition = .active) (hface : l.faceValue ≤ pool.available) :
    t'.Balanced root A { pool with
      available := pool.available - l.faceValue
      leasedActive := Word.saturatingAdd pool.leasedActive l.faceValue } := by
  have hfits := hb.available_add_lt
  obtain ⟨hleased, hquar, hsum⟩ := hb
  have hleased' : t'.leasedActive root = t.leasedActive root + l.faceValue.val := by
    simp [leasedActive, hleases, sum_insert_of_none _ _ hnew, activePart, hroot, hactive]
  have hquar' : t'.quarantined root = t.quarantined root := by
    simp [quarantined, hleases, sum_insert_of_none _ _ hnew, quarantinedPart, hactive]
  have hconsumed' : t'.consumed root = t.consumed root := by
    simp [consumed, hleases, sum_insert_of_none _ _ hnew, consumedPart, hactive]
  have hle : l.faceValue.val ≤ pool.available.val := hface
  have hsub : (pool.available - l.faceValue).val = pool.available.val - l.faceValue.val :=
    Fin.sub_val_of_le hface
  refine ⟨?_, ?_, ?_⟩
  · rw [Word.saturatingAdd_val (by omega), hleased, hleased']
  · simpa [hquar'] using hquar
  · simp only [hsub, hleased', hquar', hconsumed']
    omega

lemma replace_other (hb : t.Balanced root A pool) (hlease : t.quotaLeases[id]? = some lease)
    (hleases : t'.quotaLeases = t.quotaLeases.insert id l) (hroot : lease.budgetRoot ≠ root)
    (hsame : l.budgetRoot = lease.budgetRoot) : t'.Balanced root A pool := by
  have hactive := sum_insert_of_some (fun l => l.activePart root) l hlease
  have hquarantined := sum_insert_of_some (fun l => l.quarantinedPart root) l hlease
  have hconsumed := sum_insert_of_some (fun l => l.consumedPart root) l hlease
  simp only [activePart, quarantinedPart, consumedPart, hsame, hroot, false_and, if_false, add_zero]
    at hactive hquarantined hconsumed
  obtain ⟨hleased, hquar, hsum⟩ := hb
  constructor <;>
    simp_all [leasedActive, quarantined, consumed, activePart, quarantinedPart, consumedPart]

lemma settle (hb : t.Balanced root A pool) (hlease : t.quotaLeases[id]? = some lease)
    (hleases : t'.quotaLeases = t.quotaLeases.insert id l) (hroot : lease.budgetRoot = root)
    (hactive : lease.disposition = .active) (hsettled : l.disposition ≠ .active)
    (hroot' : l.budgetRoot = root) (hface : l.faceValue = lease.faceValue)
    (htotal : l.returnedAmount.val + l.quarantinedAmount.val ≤ lease.faceValue.val) :
    t'.Balanced root A
      { available := Word.saturatingAdd pool.available l.returnedAmount
        leasedActive := Word.saturatingSub pool.leasedActive lease.faceValue
        quarantined := Word.saturatingAdd pool.quarantined l.quarantinedAmount } := by
  have hfits := hb.available_add_lt
  obtain ⟨hleased, hquar, hsum⟩ := hb
  have hleased' : t'.leasedActive root + lease.faceValue.val = t.leasedActive root := by
    simpa [leasedActive, hleases, activePart, hroot, hactive, hsettled]
      using sum_insert_of_some (fun l => l.activePart root) l hlease
  have hquar' : t'.quarantined root = t.quarantined root + l.quarantinedAmount.val := by
    simpa [quarantined, hleases, quarantinedPart, hroot', hactive,
      hsettled] using sum_insert_of_some (fun l => l.quarantinedPart root) l hlease
  have hconsumed' : t'.consumed root = t.consumed root +
      (lease.faceValue.val - l.returnedAmount.val - l.quarantinedAmount.val) := by
    simpa [consumed, hleases, consumedPart, hroot', hactive, hsettled,
      hface] using sum_insert_of_some (fun l => l.consumedPart root) l hlease
  refine ⟨?_, ?_, ?_⟩
  · rw [Word.saturatingSub_val]
    omega
  · rw [Word.saturatingAdd_val (by omega), hquar, hquar']
  · rw [Word.saturatingAdd_val (by omega)]
    omega

end Balanced

end ControlPlaneTables

def Registered (h : List ApplyEvent) (root : Word 16) (A : U64) : Prop :=
  ∃ e ∈ h, e.Accepted ∧
    e.input.proposal.command = .rootLeasePoolMutation (.registerQuotaPool root A)

/-- The ledger of a history: leases have pools, pools were registered, and the account of
every registered root is balanced. -/
structure Ledger (h : List ApplyEvent) (t : ControlPlaneTables) : Prop where
  lease_pool : ∀ {id : QuotaLeaseId} {l : ReplicatedQuotaLeaseEntry},
    t.quotaLeases[id]? = some l → ∃ pool, t.quotaPools[l.budgetRoot]? = some pool
  pool_registered : ∀ {root : Word 16} {pool : QuotaPoolBalance},
    t.quotaPools[root]? = some pool → ∃ A, Registered h root A
  balanced : ∀ {root A}, Registered h root A → ∃ pool,
    t.quotaPools[root]? = some pool ∧ t.Balanced root A pool

namespace Ledger

variable {h h' : List ApplyEvent} {t t' : ControlPlaneTables} {logIndex : NonZeroU64}

lemma genesis : Ledger [] {} where
  lease_pool hl := by simp at hl
  pool_registered hp := by simp at hp
  balanced hr := by
    obtain ⟨e, he, -⟩ := hr
    simp at he

lemma congr (hl : Ledger h t)
    (hreg : ∀ root A, Registered h' root A ↔ Registered h root A) : Ledger h' t where
  lease_pool := hl.lease_pool
  pool_registered hpool := by simpa only [hreg] using hl.pool_registered hpool
  balanced hr := hl.balanced ((hreg _ _).mp hr)

lemma account (hl : Ledger h t)
    (hpool : t.quotaPools[root]? = some pool) : ∃ A, Registered h root A ∧
      t.Balanced root A pool := by
  obtain ⟨A, hreg⟩ := hl.pool_registered hpool
  obtain ⟨pool', hpool', hb⟩ := hl.balanced hreg
  rw [hpool] at hpool'
  cases hpool'
  exact ⟨A, hreg, hb⟩

/-- A root without a pool has no leases, so its account starts at its registration. -/
lemma balanced_of_unregistered (hl : Ledger h t)
    (hnew : t.quotaPools[root]? = none) (A : U64) : t.Balanced root A ⟨A, 0, 0⟩ := by
  have hzero (part : ReplicatedQuotaLeaseEntry → ℕ)
      (hpart : ∀ l, l.budgetRoot ≠ root → part l = 0) : sum part t.quotaLeases = 0 := by
    refine List.sum_eq_zero fun n hn => ?_
    obtain ⟨⟨id, l⟩, hmem, rfl⟩ := List.mem_map.mp hn
    refine hpart l fun hroot => ?_
    obtain ⟨pool, hpool⟩ := hl.lease_pool (Std.ExtTreeMap.mem_toList_iff_getElem?_eq_some.mp hmem)
    simp [hroot, hnew] at hpool
  have hleased : t.leasedActive root = 0 := hzero _ fun l hne => by
    simp [activePart, hne]
  have hquar : t.quarantined root = 0 := hzero _ fun l hne => by
    simp [quarantinedPart, hne]
  have hconsumed : t.consumed root = 0 := hzero _ fun l hne => by
    simp [consumedPart, hne]
  exact ⟨by simp [hleased], by simp [hquar], by simp [hleased, hquar, hconsumed]⟩

lemma of_insert (hl : Ledger h t) (hreg : ∀ root A, Registered h' root A ↔ Registered h root A)
    {root id pool pool' l} (hpool : t.quotaPools[root]? = some pool)
    (hpools : t'.quotaPools = t.quotaPools.insert root pool')
    (hleases : t'.quotaLeases = t.quotaLeases.insert id l) (hroot : l.budgetRoot = root)
    (hself : ∀ A, t.Balanced root A pool → t'.Balanced root A pool')
    (hother : ∀ {root' A pool}, root ≠ root' → t.Balanced root' A pool → t'.Balanced root' A pool) :
    Ledger h' t' := by
  refine ⟨fun {id' l'} hlease => ?_, fun {root' pool'} hpool' => ?_, fun {root' A} hr => ?_⟩
  · rw [hleases, getElem?_insert_eq] at hlease
    rw [hpools, getElem?_insert_eq]
    split at hlease
    · cases hlease
      exact ⟨_, by rw [if_pos hroot.symm]⟩
    · split
      · exact ⟨_, rfl⟩
      · exact hl.lease_pool hlease
  · rw [hpools, getElem?_insert_eq] at hpool'
    simp only [hreg]
    split at hpool'
    · next heq => exact heq ▸ hl.pool_registered hpool
    · exact hl.pool_registered hpool'
  · obtain ⟨pool', hpool', hb⟩ := hl.balanced ((hreg _ _).mp hr)
    rw [hpools, getElem?_insert_eq]
    split
    · next heq =>
      subst heq
      obtain rfl := Option.some.inj (hpool.symm.trans hpool')
      exact ⟨_, rfl, hself A hb⟩
    · next hne => exact ⟨pool', hpool', hother hne hb⟩

/-- The ledger survives a command, whose registration (if it is one) joins the history. -/
lemma step {cmd r} (hl : Ledger h t) (hstep : ControlPlaneTables.QuotaStep logIndex t cmd r t')
    (hreg : ∀ root A, Registered h' root A ↔ Registered h root A ∨
      (r = none ∧ cmd = .rootLeasePoolMutation (.registerQuotaPool root A))) : Ledger h' t' := by
  cases hstep with
  | @registered root initial _ hnew hpools hleases hfences =>
    refine ⟨fun {id l} hlease => ?_, fun {root' pool} hpool => ?_, fun {root' A} hr => ?_⟩
    · rw [hleases] at hlease
      obtain ⟨pool, hpool⟩ := hl.lease_pool hlease
      have hne : root ≠ l.budgetRoot := by
        rintro rfl
        simp [hnew] at hpool
      exact ⟨pool, by rw [hpools, getElem?_insert_ne hne, hpool]⟩
    · rw [hpools, getElem?_insert_eq] at hpool
      split at hpool
      · next heq => exact ⟨initial, (hreg _ _).mpr (.inr ⟨rfl, by rw [heq]⟩)⟩
      · obtain ⟨A, hA⟩ := hl.pool_registered hpool
        exact ⟨A, (hreg _ _).mpr (.inl hA)⟩
    · have hsums (pool A) (hb : t.Balanced root' A pool) : t'.Balanced root' A pool := by
        obtain ⟨hleased, hquar, hsum⟩ := hb
        constructor <;> simpa [leasedActive, quarantined, consumed, hleases]
      rcases (hreg _ _).mp hr with hold | ⟨-, hcmd⟩
      · obtain ⟨pool, hpool, hb⟩ := hl.balanced hold
        have hne : root ≠ root' := by
          rintro rfl
          simp [hnew] at hpool
        exact ⟨pool, by rw [hpools, getElem?_insert_ne hne, hpool], hsums _ _ hb⟩
      · obtain ⟨rfl, rfl⟩ : root = root' ∧ initial = A := by simpa using hcmd
        exact ⟨_, by rw [hpools, Std.ExtTreeMap.getElem?_insert_self],
          hsums _ _ (hl.balanced_of_unregistered hnew _)⟩
  | @allocated id root _ _ face _ _ _ pool _ hnew _ hpool hface hpools hleases hfences =>
    exact hl.of_insert (by simp [hreg]) hpool hpools hleases rfl
      (fun _ hb => hb.grant hnew hleases rfl rfl hface)
      fun hne hb => hb.insert_other hnew hleases hne
  | @settled id _ _ _ _ _ lease pool _ hlease hactive hsettles _ htotal hpool hpools hleases _ =>
    exact hl.of_insert (by simp [hreg]) hpool hpools hleases rfl
      (fun _ hb => hb.settle hlease hleases rfl hactive hsettles rfl rfl htotal)
      fun hne hb => hb.replace_other hlease hleases hne rfl
  | unchanged _ hregister hpools hleases =>
    have hreg' (root A) : Registered h' root A ↔ Registered h root A := by
      rw [hreg]
      exact or_iff_left fun hnew => hregister hnew.1 root A hnew.2
    refine ⟨fun {id l} hlease => ?_, fun {root pool} hpool => ?_, fun {root A} hr => ?_⟩
    · rw [hpools]
      exact hl.lease_pool (hleases ▸ hlease)
    · simpa only [hreg'] using hl.pool_registered (hpools ▸ hpool)
    · obtain ⟨pool, hpool, hleased, hquar, hsum⟩ := hl.balanced ((hreg' _ _).mp hr)
      refine ⟨pool, hpools ▸ hpool, ?_⟩
      constructor <;> simpa [leasedActive, quarantined, consumed, hleases]

end Ledger

variable {h : List ApplyEvent}

lemma registered_snoc :
    Registered (h ++ [e]) root A ↔ Registered h root A ∨ (e.Accepted ∧
      e.input.proposal.command = .rootLeasePoolMutation (.registerQuotaPool root A)) := by
  simp [Registered, or_and_right, exists_or]

lemma ledger_of_applies (hrun : Applies h sm) : Ledger h sm.toControlPlaneTables := by
  induction hrun with
  | refl => exact Ledger.genesis
  | snoc _ hf ih =>
    obtain ⟨-, hstep⟩ := entryStep_of_apply hf
    cases hstep with
    | replayed =>
      exact ih.congr fun root A => by simp [registered_snoc]
    | executed hnew hinner =>
      exact ih.step (quotaStep_of_applyInner hinner) fun root A => by
        simp [registered_snoc]

/-! ## No saturation, no missing pool -/

/-- None of the saturating operations that the entry may execute would saturate. -/
def SaturationFree (sm : ControlPlaneStateMachine) (e : CommittedEntry) : Prop :=
  sm.authorityReceiptHighWater.val + 1 < 256 ^ 8 ∧
  match e.proposal.command with
  | .rootLeasePoolMutation (.allocateQuotaLease _ root _ _ face _ _ _) =>
    ∀ pool, sm.quotaPools[root]? = some pool → face ≤ pool.available →
      pool.leasedActive.val + face.val < 256 ^ 8
  | .rootLeasePoolMutation (.settleOrQuarantineQuotaLease id _ returned quarantined _ _) =>
    ∀ lease, sm.quotaLeases[id]? = some lease → lease.disposition = .active →
      returned.val + quarantined.val ≤ lease.faceValue.val →
      ∃ pool, sm.quotaPools[lease.budgetRoot]? = some pool ∧
        lease.faceValue.val ≤ pool.leasedActive.val ∧
        pool.available.val + returned.val < 256 ^ 8 ∧
        pool.quarantined.val + quarantined.val < 256 ^ 8
  | _ => True

lemma ControlPlaneTables.faceValue_le_leasedActive {t : ControlPlaneTables} {id : QuotaLeaseId}
    (hlease : t.quotaLeases[id]? = some lease)
    (hactive : lease.disposition = .active) :
    lease.faceValue.val ≤ t.leasedActive lease.budgetRoot := by
  have hpart : lease.activePart lease.budgetRoot = lease.faceValue.val := by
    simp [activePart, hactive]
  exact hpart ▸ le_sum (fun l => l.activePart lease.budgetRoot) hlease

lemma highWater_le_lastApplied
    (hrun : Applies h sm) : sm.authorityReceiptHighWater.val ≤ sm.lastAppliedIndex.val := by
  refine hrun.invariant (P := fun sm => sm.authorityReceiptHighWater.val ≤ sm.lastAppliedIndex.val)
    (by simp [new]) fun {sm sm' e o} hle hf => ?_
  obtain ⟨hindex, hstep⟩ := entryStep_of_apply hf
  have hlt : sm.lastAppliedIndex.val < e.logIndex.val.val := hindex
  cases hstep with
  | replayed => exact hle.trans hlt.le
  | @executed r hnew hinner =>
    have hsucc : (Word.saturatingAdd sm.authorityReceiptHighWater 1).val ≤
        sm.authorityReceiptHighWater.val + 1 := min_le_left _ _
    cases hr : r.2 <;>
      simp only [record, advance, hr] <;> omega

lemma saturationFree_of_applies (hrun : Applies h sm)
    (hindex : sm.lastAppliedIndex < e.logIndex.val) :
    SaturationFree sm e := by
  have hledger := ledger_of_applies hrun
  refine ⟨?_, ?_⟩
  · have hhigh := highWater_le_lastApplied hrun
    have hlt : sm.lastAppliedIndex.val < e.logIndex.val.val := hindex
    have hword := e.logIndex.val.isLt
    omega
  · split
    · intro pool hpool hface
      obtain ⟨A, -, hb⟩ := hledger.account hpool
      have hfits := hb.available_add_lt
      have hle : (_ : ℕ) ≤ pool.available.val := hface
      rw [hb.leasedActive_eq]
      omega
    · intro lease hlease hactive htotal
      obtain ⟨pool, hpool⟩ := hledger.lease_pool hlease
      obtain ⟨A, -, hb⟩ := hledger.account hpool
      have hfits := hb.available_add_lt
      have hface := faceValue_le_leasedActive hlease hactive
      refine ⟨pool, hpool, ?_, ?_, ?_⟩
      · rwa [hb.leasedActive_eq]
      · omega
      · rw [hb.quarantined_eq]
        omega
    · trivial

/-- A command fails only when it settles a lease whose pool is missing. -/
lemma ControlPlaneTables.applyInner_ok
    (hl : Ledger h t) (logIndex term : NonZeroU64) (cmd : ControlPlaneCommand) :
    ∃ r, t.applyInner logIndex term cmd = .ok r := by
  rcases cmd with cmd | cmd | cmd | cmd
  · exact ⟨_, rfl⟩
  · cases cmd with
    | settleOrQuarantineQuotaLease id disposition returned quarantined epoch token =>
      simp only [applyInner, applyRootLeasePool, settleOrQuarantineQuotaLease]
      split
      · exact ⟨_, rfl⟩
      · next lease hlease =>
        obtain ⟨pool, hpool⟩ := hl.lease_pool hlease
        simp only [hpool]
        repeat' split
        all_goals exact ⟨_, rfl⟩
    | _ => exact ⟨_, rfl⟩
  · exact ⟨_, rfl⟩
  · exact ⟨_, rfl⟩

lemma lastAppliedIndex_of_applies (hrun : Applies h sm) : sm.lastAppliedIndex = 0 ∨
      ∃ e ∈ h, sm.lastAppliedIndex = e.input.logIndex.val := by
  induction hrun with
  | refl => exact .inl rfl
  | snoc _ hf =>
    obtain ⟨-, hstep⟩ := entryStep_of_apply hf
    refine .inr ⟨_, List.mem_append_right _ (List.mem_singleton_self _), ?_⟩
    cases hstep <;> rfl

lemma CommittedLog.apply_ok (log : CommittedLog) : ∃ h sm, log.apply = .ok (h, sm) := by
  obtain ⟨entries, hinc⟩ := log
  induction entries using List.reverseRecOn with
  | nil => exact ⟨_, _, rfl⟩
  | append_singleton entries e ih =>
    rw [List.map_append, List.pairwise_append] at hinc
    obtain ⟨h, sm, hall⟩ := ih hinc.1
    have hall : runAll _ .new entries = .ok (h, sm) := hall
    obtain ⟨hrun, hinputs⟩ := run_of_runAll hall
    have hindex : sm.lastAppliedIndex < e.logIndex.val := by
      rcases lastAppliedIndex_of_applies hrun with hzero | ⟨e', he', heq⟩
      · rw [hzero]
        exact Fin.pos_of_ne_zero e.logIndex.property
      · rw [heq]
        refine hinc.2.2 _ (List.mem_map.mpr ⟨e'.input, ?_, rfl⟩) _ (by simp)
        rw [← hinputs]
        exact List.mem_map.mpr ⟨e', he', rfl⟩
    have hstep : ∃ p, sm.applyCommittedEntry e = .ok p := by
      cases hkey : sm.dedupTable[e.proposal.idempotencyKey]? with
      | some =>
        exact ⟨_, applyCommittedEntry_of_recorded hindex hkey⟩
      | none =>
        obtain ⟨r, hr⟩ := applyInner_ok (ledger_of_applies hrun)
          e.logIndex e.term e.proposal.command
        rw [applyCommittedEntry_of_new hindex hkey, hr]
        exact ⟨_, rfl⟩
    obtain ⟨⟨sm', o⟩, hf⟩ := hstep
    exact ⟨_, _, runAll_snoc hall hf⟩

/-- Every committed log is applied without a missing pool and without saturation, and every
registered root ends with what it was registered with split between its available balance,
its active leases and the quarantined and consumed parts of its settled leases. -/
theorem quota_conserved (log : CommittedLog) : ∃ h sm, log.apply = .ok (h, sm) ∧
    (∀ e ∈ h, SaturationFree e.pre e.input) ∧
    ∀ root A, Registered h root A → ∃ pool, sm.quotaPools[root]? = some pool ∧
      pool.available.val + sm.leasedActive root + sm.quarantined root + sm.consumed root = A.val ∧
      pool.leasedActive.val = sm.leasedActive root ∧
      pool.quarantined.val = sm.quarantined root := by
  obtain ⟨h, sm, happly⟩ := log.apply_ok
  obtain ⟨hrun, -⟩ := run_of_runAll happly
  refine ⟨h, sm, happly, fun e he => ?_, fun root A hreg => ?_⟩
  · obtain ⟨h₁, h₂, rfl⟩ := List.append_of_mem he
    obtain ⟨hpre, sm', hf, -⟩ := hrun.split
    exact saturationFree_of_applies hpre (ControlPlaneStateMachine.entryStep_of_apply hf).1
  · obtain ⟨pool, hpool, hb⟩ := (ledger_of_applies hrun).balanced hreg
    exact ⟨pool, hpool, hb.conserved, hb.leasedActive_eq, hb.quarantined_eq⟩

end Nlos.Consensus
