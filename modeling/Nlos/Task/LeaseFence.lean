import Nlos.Task.Dispatch

/-!
# The lease fence

What a call leaves alone about a permit it has no mark for, and by what right a call changes
anything about a permit that was issued under a lease. The Artifact calls take no lease and check
none, so the result is about the runs in which they do not concern such a permit.
-/

namespace Nlos.Task

open Lib List

def Mark.permitId : Mark → Option Id
  | quiet => none
  | touched permitId | planMoved permitId | terminated permitId | planCommitted permitId _ =>
    some permitId
  | dispatched key | reconciled key _ => some key.1

/-- The permit has the same state, slots, Artifact plan, publications and receipts. The head moves
only with a receipt of the permit it is moved through. -/
def Ledger.SameFor (permitId : Id) (l l' : Ledger) : Prop :=
  l'.permits.filter (·.permitId = permitId) = l.permits.filter (·.permitId = permitId) ∧
    l'.slots.filter (·.permitId = permitId) = l.slots.filter (·.permitId = permitId) ∧
    l'.plans.filter (·.permitId = permitId) = l.plans.filter (·.permitId = permitId) ∧
    l'.publications.filter (·.2.permitId = permitId) =
      l.publications.filter (·.2.permitId = permitId) ∧
    l'.receipts.filter (·.permitId = some permitId) = l.receipts.filter (·.permitId = some permitId)

instance (permitId : Id) (l l' : Ledger) : Decidable (l.SameFor permitId l') :=
  inferInstanceAs (Decidable (_ ∧ _))

namespace Ledger.SameFor

variable {permitId : Id} {l l' l'' : Ledger}

lemma refl : l.SameFor permitId l := ⟨rfl, rfl, rfl, rfl, rfl⟩

lemma trans (h : l.SameFor permitId l') (h' : l'.SameFor permitId l'') : l.SameFor permitId l'' :=
  ⟨h'.1.trans h.1, h'.2.1.trans h.2.1, h'.2.2.1.trans h.2.2.1, h'.2.2.2.1.trans h.2.2.2.1,
    h'.2.2.2.2.trans h.2.2.2.2⟩

end Ledger.SameFor

section Frame

variable {permitId : Id}

lemma filter_movePermit (h : other ≠ permitId) :
    (movePermit other old new permits).filter (·.permitId = permitId) =
      permits.filter (·.permitId = permitId) := by
  refine filter_updateRows ?_
  rintro p - ⟨rfl, -⟩
  simp [h]

lemma filter_slots {P : SlotRecord → Prop} [DecidablePred P] {f : SlotRecord → SlotRecord}
    {slot : SlotRecord} (hf : ∀ q, (f q).key = q.key) (hP : ∀ q, P q → q.key = slot.key)
    (h : slot.permitId ≠ permitId) :
    (updateRows P f slots).filter (·.permitId = permitId) =
      slots.filter (·.permitId = permitId) := by
  refine filter_updateRows fun r _ hcond => ?_
  have hne : r.permitId ≠ permitId := permitId_eq_of_key (hP r hcond) ▸ h
  have hmoved : (f r).permitId ≠ permitId := permitId_eq_of_key (hf r) ▸ hne
  simp [hne, hmoved]

lemma filter_plans {l : Ledger} (hl : l.Sound)
    {p : ArtifactCommitPlanRecord → Prop} [DecidablePred p] (hplan : plan ∈ l.plans)
    (h : plan.permitId ≠ permitId) (hp : ∀ q, p q → q.planId = plan.planId)
    (hf : ∀ q, (f q).permitId = q.permitId) :
    (updateRows p f l.plans).filter (·.permitId = permitId) =
      l.plans.filter (·.permitId = permitId) := by
  refine filter_updateRows ?_
  intro q hq hpq
  obtain rfl := hl.plans.eq hq hplan (hp q hpq)
  simp [hf, h]

lemma Change.sameFor {l l' : Ledger} (h : Change l mark l') (hl : l.Sound)
    (hpermit : ∃ p ∈ l.permits, p.permitId = permitId) (hmark : mark.permitId ≠ some permitId) :
    l.SameFor permitId l' := by
  cases h with
  | registered | cancelled | entered | lost | tokened | noted => exact ⟨rfl, rfl, rfl, rfl, rfl⟩
  | receipted hclosure =>
    refine ⟨rfl, rfl, rfl, rfl, filter_append_of_not ?_⟩
    intro r hr
    simp [mem_singleton.mp hr, hclosure.permitId]
  | issued _ hfresh _ _ hslots =>
    obtain ⟨q, hq, rfl⟩ := hpermit
    have hne := hfresh q hq
    refine ⟨filter_append_of_not ?_, filter_append_of_not ?_, rfl, rfl, rfl⟩
    · intro p hp
      rw [mem_singleton.mp hp]
      simpa using hne.symm
    · intro slot hslot
      rw [(hslots slot hslot).1]
      simpa using hne.symm
  | @slotMoved p slot target entries mark _ _ hp hout hslot hid hmove =>
    have hne : slot.permitId ≠ permitId := by
      rintro rfl
      refine hmark ?_
      cases hmove with
      | permitted | noEffect | closed | unknown | reconciling => exact congrArg some hid.symm
      | dispatched | resolvedClosed | resolvedNoEffect | unresolved => rfl
    exact ⟨rfl, filter_slots (fun _ => rfl) (fun _ hq => hq.1) hne, rfl, rfl, rfl⟩
  | bound _ _ hid =>
    have hne := fun heq => hmark (congrArg some (hid ▸ heq))
    exact ⟨rfl, filter_slots (fun _ => rfl) (fun _ hq => hq.1) hne, rfl, rfl, rfl⟩
  | held =>
    have hne := fun heq => hmark (congrArg some heq)
    exact ⟨filter_movePermit hne, rfl, rfl, rfl, rfl⟩
  | @terminated p attempt receipt state plans mark hterm _ hclosing =>
    have hne : p.permitId ≠ permitId := by
      rintro rfl
      refine hmark ?_
      cases hclosing with
      | untouched | committed => rfl
    have hreceipts : (l.receipts ++ [receipt]).filter (·.permitId = some permitId) =
        l.receipts.filter (·.permitId = some permitId) := by
      refine filter_append_of_not ?_
      intro r hr
      rw [mem_singleton.mp hr, hterm.permitId]
      simpa using hne
    refine ⟨filter_movePermit hne, rfl, ?_, rfl, hreceipts⟩
    cases hclosing with
    | untouched => rfl
    | committed hplan hid =>
      exact filter_plans hl hplan (hid ▸ hne) (fun _ hq => hq.1) fun _ => rfl
  | planned =>
    have hne := fun heq => hmark (congrArg some heq)
    refine ⟨rfl, rfl, filter_append_of_not ?_, rfl, rfl⟩
    intro q hq
    rw [mem_singleton.mp hq]
    simpa using hne
  | authorized hplan =>
    have hne := fun heq => hmark (congrArg some heq)
    exact ⟨rfl, rfl, filter_plans hl hplan hne (fun _ hq => hq.1) fun _ => rfl, rfl, rfl⟩
  | published hplan _ _ hrows =>
    have hne := fun heq => hmark (congrArg some heq)
    refine ⟨rfl, rfl, filter_plans hl hplan hne (fun _ hq => hq.1) fun _ => rfl,
      filter_append_of_not ?_, rfl⟩
    intro row hrow
    rw [(hrows row hrow).2]
    simpa using hne

lemma Change.exists_permit (h : Change l mark l')
    (hpermit : ∃ p ∈ l.permits, p.permitId = permitId) :
    ∃ p ∈ l'.permits, p.permitId = permitId := by
  obtain ⟨p, hp, rfl⟩ := hpermit
  cases h with
  | issued => exact ⟨p, mem_append_left _ hp, rfl⟩
  | held | terminated =>
    obtain ⟨q, hq, hid, -⟩ := exists_mem_movePermit hp
    exact ⟨q, hq, hid⟩
  | registered | cancelled | entered | lost | receipted | tokened | slotMoved | bound | noted
  | planned | authorized | published =>
    exact ⟨p, hp, rfl⟩

end Frame

namespace TaskStore

variable {s t : TaskStore} {operation : Operation} {answer : Answer}

lemma mayTouch_of_marked (h : s.Marked operation answer mark)
    (hmark : mark.permitId = some permitId) : s.MayTouch operation permitId := by
  cases mark with
  | quiet => cases hmark
  | touched =>
    obtain rfl := Option.some.inj hmark
    exact h
  | planMoved =>
    obtain rfl := Option.some.inj hmark
    exact .inr (.inl h)
  | dispatched key | reconciled key outcome =>
    obtain rfl := Option.some.inj hmark
    exact h.1
  | terminated other | planCommitted other planId =>
    obtain rfl := Option.some.inj hmark
    exact h.1

lemma mayTouch_of_changed (hsound : s.ledger.Sound) (h : s.call operation = (t, answer))
    (hp : p ∈ s.permits)
    (hchanged : ¬ s.ledger.SameFor p.permitId t.ledger) :
    s.MayTouch operation p.permitId := by
  by_contra hnone
  refine hchanged ?_
  have hinv := (call_steps hsound h).invariant
    (P := fun l => l.Sound ∧ (∃ q ∈ l.permits, q.permitId = p.permitId) ∧
      s.ledger.SameFor p.permitId l) ?_ ⟨hsound, ⟨p, hp, rfl⟩, .refl⟩
  · exact hinv.2.2
  rintro l l' mark hmarked ⟨hl, hpermit, hsame⟩ hchange
  have hother : mark.permitId ≠ some p.permitId := fun heq =>
    hnone (mayTouch_of_marked hmarked heq)
  exact ⟨hchange.sound hl, hchange.exists_permit hpermit,
    hsame.trans (hchange.sameFor hl hpermit hother)⟩

end TaskStore

variable {profile : ScaleProfile} {authorityId : Id}
  {h : List (Event TaskStore Operation Answer)} {s : TaskStore}

/-- When no Artifact call concerns a permit issued under a lease, every call that changes anything
about such a permit presented that lease while it was live, or the live lease of the successor
that adopted the permit across terms. -/
theorem authority_lease_fence (hrun : AuthorityRun profile authorityId h s)
    (hplans : ∀ e ∈ h, ∀ p ∈ e.pre.permits, p.authorityLeaseBinding ≠ none →
      ¬ e.pre.ConcernsPlan p.permitId e.input) :
    ∀ e ∈ h, ∀ p ∈ e.pre.permits, p.authorityLeaseBinding ≠ none →
      ¬ e.pre.ledger.SameFor p.permitId (e.pre.call e.input).1.ledger →
      ∃ lease nowMs, e.input.presented = some (lease, nowMs) ∧ e.pre.Fenced p lease nowMs := by
  intro e he p hp hleased hchanged
  obtain ⟨h₁, h₂, rfl⟩ := append_of_mem he
  have hsound := sound_of_run (Run.split hrun).1
  rcases TaskStore.mayTouch_of_changed hsound rfl hp hchanged with
    ⟨lease, nowMs, hpresented, q, hq, hid, hfenced⟩ | hplan | hreclaim
  · obtain rfl := hsound.permits.eq hq hp hid
    exact ⟨lease, nowMs, hpresented, hfenced⟩
  · exact absurd hplan (hplans e he p hp hleased)
  · -- the reclaim drive only ends permits without a lease
    unfold TaskStore.ConcernsReclaim at hreclaim
    split at hreclaim
    · obtain ⟨q, hq, hid, -, hnone⟩ := hreclaim
      obtain rfl := hsound.permits.eq hq hp hid
      exact absurd hnone hleased
    · exact hreclaim.elim

namespace Sample

def leaseRequest : AuthorityLeaseRequest := ⟨5, 0, 100, 6⟩

def acquireAuthorityLease : Operation := .acquireAuthorityLease leaseRequest .unanchored

def lease : AuthorityLeaseRecord :=
  (TaskStore.empty Sample.profile 0).leaseRecord leaseRequest 1 1 100

def leasing : List Operation :=
  acquireAuthorityLease :: registering ++
    [.requestCommitPermit (permit [] 0) ⟨.ok (), .ok ()⟩ (some lease)]

end Sample

/-- A leased permit is closed under its lease. -/
theorem authority_lease_fence_closing :
    ∃ h s, AuthorityRun Sample.profile 0 h s ∧ ∃ e ∈ h, ∃ p ∈ e.pre.permits,
      p.authorityLeaseBinding ≠ none ∧
      ∃ lease nowMs, e.input.presented = some (lease, nowMs) ∧ e.pre.Fenced p lease nowMs := by
  have hrun : ∃ h s, AuthorityRun Sample.profile 0 h s ∧
      h.map Event.input = Sample.leasing ++ [Sample.closePermit (some Sample.lease)] ∧
      (h.any fun e => e.pre.permits.any fun p => p.authorityLeaseBinding.isSome &&
        !decide (e.pre.ledger.SameFor p.permitId (e.pre.call e.input).1.ledger)) = true :=
    exists_run_of_runCheck (f := TaskStore.step) (s := .empty Sample.profile 0) (by decide +kernel)
  obtain ⟨h, s, hrun, hinputs, hcheck⟩ := hrun
  obtain ⟨e, he, hany⟩ := any_eq_true.mp hcheck
  obtain ⟨p, hp, hchanged⟩ := any_eq_true.mp hany
  simp only [Bool.and_eq_true, Bool.not_eq_true', decide_eq_false_iff_not,
    Option.isSome_iff_ne_none] at hchanged
  have hplans : ∀ e ∈ h, ∀ p ∈ e.pre.permits, p.authorityLeaseBinding ≠ none →
      ¬ e.pre.ConcernsPlan p.permitId e.input := by
    intro e he p _ _ hconcerns
    have hinput := mem_map_of_mem (f := Event.input) he
    rw [hinputs] at hinput
    simp only [Sample.leasing, Sample.registering, cons_append, nil_append,
      mem_cons, not_mem_nil, or_false] at hinput
    rcases hinput with hinput | hinput | hinput | hinput | hinput <;>
    · rw [hinput] at hconcerns
      exact hconcerns
  exact ⟨h, s, hrun, e, he, p, hp, hchanged.1,
    authority_lease_fence hrun hplans e he p hp hchanged.1 hchanged.2⟩

/-- The commit of a published plan ends a leased permit without any lease. -/
theorem finalizeArtifactCommit_ignores_lease :
    ∃ h s operation, AuthorityRun Sample.profile 0 h s ∧ operation.presented = none ∧
      ∃ p ∈ s.permits, p.authorityLeaseBinding ≠ none ∧
        ¬ s.ledger.SameFor p.permitId (s.call operation).1.ledger := by
  have hrun : ∃ h s, AuthorityRun Sample.profile 0 h s ∧
      h.map Event.input = Sample.acquireAuthorityLease :: Sample.publishing (some Sample.lease) ∧
      decide (∃ p ∈ s.permits, p.authorityLeaseBinding ≠ none ∧ ¬ s.ledger.SameFor p.permitId
        (s.call (.finalizeArtifactCommit Sample.planId)).1.ledger) = true :=
    exists_run_of_runCheck (f := TaskStore.step) (s := .empty Sample.profile 0) (by decide +kernel)
  obtain ⟨h, s, hrun, -, hcheck⟩ := hrun
  exact ⟨h, s, .finalizeArtifactCommit Sample.planId, hrun, rfl, of_decide_eq_true hcheck⟩

end Nlos.Task
