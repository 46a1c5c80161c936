import Nlos.Consensus.QuotaLedger

/-!
# Verdicts: rejections and replays

A rejected command leaves the domain tables alone, with one exception: a capacity lease that does
not fit a pool it names for the first time registers the pool all the same.
-/

namespace Nlos.Consensus

open Lib ControlPlaneStateMachine

/-- The entry is a capacity lease, not seen before, that asks an unregistered pool for more
than the capacity it declares for it. -/
def SeedsRejectedPool (sm : ControlPlaneStateMachine) (e : CommittedEntry) : Prop :=
  sm.dedupTable[e.proposal.idempotencyKey]? = none ∧
  match e.proposal.command with
  | .rootLeasePoolMutation (.allocateCapacityLease id poolId total _ _ amount _ _) =>
    sm.capacityLeases[id]? = none ∧ amount ≠ 0 ∧ sm.capacityPools[poolId]? = none ∧
      total < amount
  | _ => False

namespace ControlPlaneTables

variable {t : ControlPlaneTables} {logIndex term : NonZeroU64} {r : CommandResult}
  {reason : ControlPlaneDomainRejection}

lemma allocateCapacityLease_rejected {id poolId total cell gen amount epoch token}
    (h : t.allocateCapacityLease logIndex id poolId total cell gen amount epoch token = r)
    (hr : r.2 = some reason) :
    r.1 = t ↔ ¬ (t.capacityLeases[id]? = none ∧ amount ≠ 0 ∧ t.capacityPools[poolId]? = none ∧
      total < amount) := by
  subst h
  unfold allocateCapacityLease at hr ⊢
  split
  · next hguard =>
    simp only [reject, true_iff]
    rintro ⟨hnew, hamount, -⟩
    rcases hguard with hold | hzero
    · simp [← Std.ExtTreeMap.isSome_getElem?_eq_contains, hnew] at hold
    · exact hamount hzero
  · next hguard =>
    rw [if_neg hguard] at hr
    have hnew : t.capacityLeases[id]? = none := by simpa using fun h => hguard (.inl h)
    have hamount : amount ≠ 0 := fun h => hguard (.inr h)
    cases hpool : t.capacityPools[poolId]? with
    | some pool =>
      have hself : t.capacityPools.insert poolId pool = t.capacityPools := by
        refine Std.ExtTreeMap.ext_getElem? fun a => ?_
        rw [Table.getElem?_insert_eq]
        split
        · next h => rw [← h, hpool]
        · rfl
      simp only [hpool, Option.getD_some, hself] at hr ⊢
      repeat' split
      all_goals simp_all [accept, reject]
    | none =>
      have hadd : Word.checkedAdd (0 : U64) amount = some amount :=
        Word.checkedAdd_eq_some_iff.mpr (by simp)
      simp only [hpool, Option.getD_none, ne_eq, not_true_eq_false, if_false, hadd] at hr ⊢
      split at hr
      · next hgt =>
        have hseeds : total < amount := hgt
        simp only [hseeds, if_true, reject, hnew, hamount, not_false_eq_true,
          and_self, not_true_eq_false, iff_false]
        intro heq
        have hlookup := congrArg (fun t => t.capacityPools[poolId]?) heq
        simp [hpool] at hlookup
      · simp [accept] at hr

def CommandResult.Clean (t : ControlPlaneTables) (r : CommandResult) : Prop :=
  r.2 = none ∨ r.1 = t

/-- Every command but a capacity lease is accepted or leaves the tables as they are. -/
lemma applyInner_clean (h : t.applyInner logIndex term cmd = .ok r)
    (hcmd : ∀ id poolId total cell gen amount epoch token, cmd ≠ .rootLeasePoolMutation
      (.allocateCapacityLease id poolId total cell gen amount epoch token)) :
    CommandResult.Clean t r := by
  rcases cmd with cmd | cmd | cmd | cmd
  · cases h
    cases cmd <;> simp only [applyCellDirectory] <;> repeat' split
    all_goals first | exact .inr rfl | exact .inl rfl
  · cases cmd with
    | registerQuotaPool =>
      cases h
      simp only [registerQuotaPool]
      split
      · exact .inr rfl
      · exact .inl rfl
    | allocateQuotaLease =>
      cases h
      simp only [allocateQuotaLease]
      repeat' split
      all_goals first | exact .inr rfl | exact .inl rfl
    | settleOrQuarantineQuotaLease =>
      simp only [applyInner, applyRootLeasePool, settleOrQuarantineQuotaLease] at h
      repeat' split at h
      all_goals cases h
      all_goals first | exact .inr rfl | exact .inl rfl
    | allocateCapacityLease => exact (hcmd _ _ _ _ _ _ _ _ rfl).elim
    | transitionExclusiveDeviceHead =>
      cases h
      simp only [transitionExclusiveDeviceHead]
      repeat' split
      all_goals first | exact .inr rfl | exact .inl rfl
  · cases h
    cases cmd <;> simp only [applyTaskAuthorityShard] <;> repeat' split
    all_goals first | exact .inr rfl | exact .inl rfl
  · cases h
    cases cmd <;> simp only [applyControlPlaneAudit] <;> repeat' split
    all_goals first | exact .inr rfl | exact .inl rfl

end ControlPlaneTables

/-- A rejected entry leaves the domain tables and the receipt counter as they are exactly
when it does not seed a capacity pool. -/
theorem rejected_unchanged_iff {sm sm' : ControlPlaneStateMachine} {e : CommittedEntry}
    {index : NonZeroU64} {reason : ControlPlaneDomainRejection}
    (h : sm.applyCommittedEntry e = .ok (sm', .domainRejected index reason)) :
    sm'.toControlPlaneTables = sm.toControlPlaneTables ∧
        sm'.authorityReceiptHighWater = sm.authorityReceiptHighWater ↔
      ¬ SeedsRejectedPool sm e := by
  obtain ⟨-, hstep⟩ := ControlPlaneStateMachine.entryStep_of_apply h
  generalize ho : AppliedProposalOutcome.domainRejected index reason = o at hstep
  cases hstep with
  | replayed hrec =>
    refine iff_of_true ⟨rfl, rfl⟩ fun hseeds => ?_
    simp [hseeds.1] at hrec
  | @executed r hnew hinner =>
    obtain ⟨reason', hr⟩ : ∃ reason', r.2 = some reason' := by
      cases hr : r.2 with
      | none => simp [hr, AppliedProposalOutcome.ofRejection] at ho
      | some reason' => exact ⟨reason', rfl⟩
    have hwater : (sm.record e r).authorityReceiptHighWater = sm.authorityReceiptHighWater := by
      simp only [ControlPlaneStateMachine.record, hr]
    simp only [ControlPlaneStateMachine.record_tables, hwater, and_true, SeedsRejectedPool,
      hnew, true_and]
    split
    · next hcmd =>
      rw [hcmd] at hinner
      exact ControlPlaneTables.allocateCapacityLease_rejected (Except.ok.inj hinner) hr
    · next hcmd =>
      refine iff_of_true ?_ id
      have hclean := ControlPlaneTables.applyInner_clean hinner hcmd
      exact hclean.resolve_left (by simp [hr])

def capacityRequest (amount : U64) : CommittedEntry where
  logIndex := ⟨1, one_ne_zero_u64⟩
  term := ⟨1, one_ne_zero_u64⟩
  proposal := ⟨7, .rootLeasePoolMutation
    (.allocateCapacityLease 1 2 5 3 ⟨1, one_ne_zero_u64⟩ amount ⟨1, one_ne_zero_u64⟩
      ⟨1, one_ne_zero_u64⟩)⟩

lemma capacityRequest_ten_seeds : new.applyCommittedEntry (capacityRequest 10) =
      .ok (new.record (capacityRequest 10)
        ({ capacityPools := (∅ : Table (Word 16) CapacityPoolBalance).insert 2 ⟨5, 0⟩ },
          some .insufficientOrInvalidPoolBalance),
        .domainRejected ⟨1, by decide⟩ .insufficientOrInvalidPoolBalance) := by
  rw [applyCommittedEntry_of_new (by decide) (by decide)]
  rfl

/-- On the genesis state the request is rejected and the pool is registered. -/
theorem rejected_capacityRequest_changes_tables :
    ∃ sm', ControlPlaneStateMachine.new.applyCommittedEntry (capacityRequest 10) =
        .ok (sm', .domainRejected ⟨1, by decide⟩ .insufficientOrInvalidPoolBalance) ∧
      sm'.toControlPlaneTables ≠ ControlPlaneStateMachine.new.toControlPlaneTables := by
  refine ⟨_, capacityRequest_ten_seeds, fun heq => ?_⟩
  have hlookup := congrArg (fun t => t.capacityPools[(2 : Word 16)]?) heq
  simp [ControlPlaneStateMachine.new] at hlookup

theorem rejected_capacityRequest_zero_unchanged :
    ∃ sm', ControlPlaneStateMachine.new.applyCommittedEntry (capacityRequest 0) =
        .ok (sm', .domainRejected ⟨1, by decide⟩ .insufficientOrInvalidPoolBalance) ∧
      sm'.toControlPlaneTables = ControlPlaneStateMachine.new.toControlPlaneTables ∧
      sm'.authorityReceiptHighWater = ControlPlaneStateMachine.new.authorityReceiptHighWater := by
  have happly : ControlPlaneStateMachine.new.applyCommittedEntry (capacityRequest 0) =
      .ok (ControlPlaneStateMachine.new.record (capacityRequest 0)
        ({}, some .insufficientOrInvalidPoolBalance),
        .domainRejected ⟨1, by decide⟩ .insufficientOrInvalidPoolBalance) := by
    rw [ControlPlaneStateMachine.applyCommittedEntry_of_new (by decide) (by decide)]
    rfl
  refine ⟨_, happly, (rejected_unchanged_iff happly).mpr ?_⟩
  simp [SeedsRejectedPool, capacityRequest]

def AppliedProposalOutcome.verdict :
    AppliedProposalOutcome → NonZeroU64 × Option ControlPlaneDomainRejection
  | .applied index _ => (index, none)
  | .domainRejected index reason => (index, some reason)

@[simp] lemma verdict_ofRejection (index : NonZeroU64) (replay : Bool)
    (r : Option ControlPlaneDomainRejection) :
    (AppliedProposalOutcome.ofRejection index replay r).verdict = (index, r) := by
  cases r <;> rfl

abbrev CommittedEntry.key (e : CommittedEntry) : IdempotencyKey := e.proposal.idempotencyKey

def firstOccurrences (entries : List CommittedEntry) : List CommittedEntry :=
  entries.foldl (fun firsts e =>
    if firsts.any (fun first => first.key = e.key) then firsts else firsts ++ [e]) []

def executeAll (entries : List CommittedEntry) : Except String ControlPlaneTables :=
  entries.foldlM (fun t e =>
    (t.applyInner e.logIndex e.term e.proposal.command).map Prod.fst) {}

lemma firstOccurrences_snoc (entries : List CommittedEntry) (e : CommittedEntry) :
    firstOccurrences (entries ++ [e]) =
      if (firstOccurrences entries).any (fun first => first.key = e.key) then
        firstOccurrences entries
      else firstOccurrences entries ++ [e] := by
  simp [firstOccurrences]

lemma any_firstOccurrences (entries : List CommittedEntry) (key : IdempotencyKey) :
    (firstOccurrences entries).any (fun first => first.key = key) =
      entries.any (fun e => e.key = key) := by
  induction entries using List.reverseRecOn with
  | nil => rfl
  | append_singleton entries e ih =>
    rw [firstOccurrences_snoc, List.any_append, ← ih]
    split
    · next hseen =>
      by_cases hkey : e.key = key
      · simp [hkey ▸ hseen]
      · simp [hkey]
    · simp

lemma executeAll_snoc (entries : List CommittedEntry) (e : CommittedEntry) :
    executeAll (entries ++ [e]) = executeAll entries >>= fun t =>
      (t.applyInner e.logIndex e.term e.proposal.command).map Prod.fst := by
  simp [executeAll]

def firstEvent? (h : List ApplyEvent) (key : IdempotencyKey) : Option ApplyEvent :=
  h.find? fun e => e.input.key = key

def ApplyEvent.dedupRecord (e : ApplyEvent) : DedupRecord :=
  ⟨e.input.proposal.proposalDigest, e.output.verdict.1, e.output.verdict.2⟩

lemma dedupTable_of_applies (hrun : Applies h sm) (key : IdempotencyKey) :
    sm.dedupTable[key]? = (firstEvent? h key).map ApplyEvent.dedupRecord := by
  induction hrun with
  | refl => simp [firstEvent?, new]
  | @snoc h sm sm' e o _ hf ih =>
    obtain ⟨-, hstep⟩ := entryStep_of_apply hf
    simp only [firstEvent?, List.find?_append] at ih ⊢
    cases hstep with
    | @replayed rec hrec =>
      rw [advance_dedupTable, ih]
      by_cases hkey : e.key = key
      · rw [← hkey] at ih ⊢
        obtain ⟨first, hfirst, -⟩ := Option.map_eq_some_iff.mp (ih.symm.trans hrec)
        simp [hfirst]
      · simp [hkey]
    | @executed r hnew hinner =>
      rw [record_dedupTable, Table.getElem?_insert_eq]
      split
      · next hkey =>
        rw [← hkey] at ih ⊢
        have hnone := Option.map_eq_none_iff.mp (ih.symm.trans hnew)
        simp [hnone, ApplyEvent.dedupRecord]
      · next hkey => simp [ih, hkey]

lemma tables_of_applies (hrun : Applies h sm) :
    executeAll (firstOccurrences (h.map Event.input)) = .ok sm.toControlPlaneTables := by
  induction hrun with
  | refl => rfl
  | @snoc h sm sm' e o hpre hf ih =>
    obtain ⟨-, hstep⟩ := entryStep_of_apply hf
    have hseen : (firstOccurrences (h.map Event.input)).any (fun first => first.key = e.key) =
        (sm.dedupTable[e.key]?).isSome := by
      rw [any_firstOccurrences, dedupTable_of_applies hpre]
      rw [Bool.eq_iff_iff]
      simp [firstEvent?]
    rw [List.map_append, List.map_singleton, firstOccurrences_snoc, hseen]
    cases hstep with
    | replayed hrec => simpa [hrec] using ih
    | @executed r hnew hinner =>
      simp only [hnew, Option.isSome_none, Bool.false_eq_true, if_false]
      rw [executeAll_snoc, ih]
      simp [bind, Except.bind, hinner, Except.map]

/-- A committed log acts as the first occurrences of its keys, executed at their own index
and term. Every later occurrence reports the verdict of the first one if the proposal is the
same by digest, and is rejected as a conflict otherwise. -/
theorem applied_at_most_once (log : CommittedLog) : ∃ h sm, log.apply = .ok (h, sm) ∧
    executeAll (firstOccurrences log.entries) = .ok sm.toControlPlaneTables ∧
    ∀ h₁ e h₂ first, h = h₁ ++ e :: h₂ → firstEvent? h₁ e.input.key = some first →
      if first.input.proposal.proposalDigest = e.input.proposal.proposalDigest then
        e.output.verdict = first.output.verdict
      else e.output = .domainRejected e.input.logIndex .idempotencyKeyPayloadConflict := by
  obtain ⟨h, sm, happly⟩ := log.apply_ok
  obtain ⟨hrun, hinputs⟩ := run_of_runAll happly
  refine ⟨h, sm, happly, hinputs ▸ tables_of_applies hrun, ?_⟩
  rintro h₁ e h₂ first rfl hfirst
  obtain ⟨hpre, sm', hf, -⟩ := hrun.split
  have hrec := dedupTable_of_applies hpre e.input.key
  rw [hfirst, Option.map_some] at hrec
  rw [ControlPlaneStateMachine.applyCommittedEntry_of_recorded
    (ControlPlaneStateMachine.entryStep_of_apply hf).1 hrec, Except.ok.injEq, Prod.mk.injEq] at hf
  rw [← hf.2]
  split
  · next hsame =>
    rw [ControlPlaneStateMachine.replay_of_digest_eq first.dedupRecord hsame, verdict_ofRejection]
    rfl
  · next hdiff =>
    exact ControlPlaneStateMachine.replay_of_digest_ne first.dedupRecord hdiff

end Nlos.Consensus
