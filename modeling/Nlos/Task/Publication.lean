import Nlos.Task.Dispatch

/-!
# Published artifacts and the end of their permit

Once a plan is authorized its permit should end only in the commit of the plan. The commit of a
ready plan keeps to this; the other ways to end a permit never look at the plan, so the result is
about the runs in which they are not used on the permit of a plan that is being published.
-/

namespace Nlos.Task

open Lib List TaskStore

variable {plans : List ArtifactCommitPlanRecord} {plan : ArtifactCommitPlanRecord}

lemma exists_mem_movePlan
    (h : plan ∈ plans) : ∃ q ∈ movePlan planId old new plans, q.planId = plan.planId := by
  unfold movePlan
  refine exists_mem_updateRows ArtifactCommitPlanRecord.planId ?_ h
  intro q
  rfl

lemma exists_mem_commitPlan (h : plan ∈ plans) :
    ∃ q ∈ commitPlan planId receiptId plans, q.planId = plan.planId := by
  unfold commitPlan
  refine exists_mem_updateRows ArtifactCommitPlanRecord.planId ?_ h
  intro q
  rfl

namespace Ledger

def published (l : Ledger) (planId : Id) : ℕ :=
  (l.publications.filter fun row => row.1 = planId).length

lemma published_append_of_ne {l : Ledger} (h : ∀ row ∈ rows, row.1 ≠ planId) :
    { l with publications := l.publications ++ rows }.published planId = l.published planId :=
  congrArg List.length (filter_append_of_not fun row hrow => by simpa using h row hrow)

/-- The plans against the receipts of their permits: no publication before the authorization, no
receipt before the commit of the plan, and the receipt of a committed plan is the one `wrote`
tells of. -/
structure PlansKept (l : Ledger) (wrote : Id → TaskReceiptRecord → Prop) : Prop where
  owned : ∀ row ∈ l.publications, ∃ plan ∈ l.plans, plan.planId = row.1
  unreceipted : ∀ plan ∈ l.plans, plan.state ≠ .finalized → plan.taskReceiptId = none
  planned : ∀ plan ∈ l.plans, plan.state = .planned →
    ∀ row ∈ l.publications, row.1 ≠ plan.planId
  unfinished : ∀ plan ∈ l.plans, plan.state = .publishing ∨ plan.state = .ready →
    ∀ r ∈ l.receipts, r.permitId ≠ some plan.permitId
  complete : ∀ plan ∈ l.plans, plan.state = .finalized →
    l.published plan.planId = plan.expectations.length ∧
      ∃ r ∈ l.receipts, r.permitId = some plan.permitId
  committed : ∀ plan ∈ l.plans, plan.state = .finalized → ∀ r ∈ l.receipts,
    r.permitId = some plan.permitId → r.outcome = .committed ∧ wrote plan.planId r

namespace PlansKept

variable {l : Ledger} {wrote : Id → TaskReceiptRecord → Prop}

lemma mono {wrote' : Id → TaskReceiptRecord → Prop}
    (hwrote : ∀ {planId r}, wrote planId r → wrote' planId r) (h : l.PlansKept wrote) :
    l.PlansKept wrote' where
  __ := h
  committed := by
    intro plan hplan hstate r hr hid
    obtain ⟨houtcome, hwritten⟩ := h.committed plan hplan hstate r hr hid
    exact ⟨houtcome, hwrote hwritten⟩

lemma receipted (h : l.PlansKept wrote) {receipt heads attempts permits}
    (hother : ∀ plan ∈ l.plans, plan.state ≠ .planned → receipt.permitId ≠ some plan.permitId) :
    { l with
      heads := heads
      attempts := attempts
      permits := permits
      receipts := l.receipts ++ [receipt] }.PlansKept wrote where
  owned := h.owned
  unreceipted := h.unreceipted
  planned := h.planned
  unfinished := by
    intro plan hplan hstate
    refine forall_mem_append.mpr
      ⟨h.unfinished plan hplan hstate, forall_mem_singleton.mpr (hother plan hplan ?_)⟩
    rcases hstate with hstate | hstate
    · simp [hstate]
    · simp [hstate]
  complete := by
    intro plan hplan hstate
    obtain ⟨hcount, r, hr, hid⟩ := h.complete plan hplan hstate
    exact ⟨hcount, r, mem_append_left _ hr, hid⟩
  committed := by
    intro plan hplan hstate
    refine forall_mem_append.mpr
      ⟨h.committed plan hplan hstate, forall_mem_singleton.mpr fun hid => ?_⟩
    exact absurd hid (hother plan hplan (by simp [hstate]))

lemma planCommitted (h : l.PlansKept wrote) (hl : l.Sound) {plan receipt heads attempts permits}
    (hplan : plan ∈ l.plans) (hready : plan.state = .ready)
    (hcount : l.published plan.planId = plan.expectations.length)
    (hid : receipt.permitId = some plan.permitId) (houtcome : receipt.outcome = .committed)
    (hwrote : wrote plan.planId receipt) :
    { l with
      heads := heads
      attempts := attempts
      permits := permits
      receipts := l.receipts ++ [receipt]
      plans := commitPlan plan.planId receipt.receiptId l.plans }.PlansKept wrote := by
  -- a plan after the write is another plan of before, or the committed one
  have hcases : ∀ q ∈ commitPlan plan.planId receipt.receiptId l.plans,
      (q ∈ l.plans ∧ q.planId ≠ plan.planId ∧ q.permitId ≠ plan.permitId) ∨
        q = { plan with state := .finalized, taskReceiptId := some receipt.receiptId } := by
    intro q hq
    rcases mem_updateRows.mp hq with ⟨hold, hcond⟩ | ⟨old, hold, hcond, rfl⟩
    · have hne : q ≠ plan := by
        rintro rfl
        exact hcond ⟨rfl, hready, h.unreceipted q hold (by simp [hready])⟩
      exact .inl ⟨hold, fun heq => hne (hl.plans.eq hold hplan heq),
        fun heq => hne (hl.plans_permit.eq hold hplan heq)⟩
    · obtain rfl := hl.plans.eq hold hplan hcond.1
      exact .inr rfl
  refine ⟨?_, ?_, ?_, ?_, ?_, ?_⟩
  · intro row hrow
    obtain ⟨q, hq, hqid⟩ := h.owned row hrow
    rw [← hqid]
    exact exists_mem_commitPlan hq
  · intro q hq hstate
    rcases hcases q hq with ⟨hold, -, -⟩ | rfl
    · exact h.unreceipted q hold hstate
    · exact absurd rfl hstate
  · intro q hq hstate row hrow
    rcases hcases q hq with ⟨hold, -, -⟩ | rfl
    · exact h.planned q hold hstate row hrow
    · cases hstate
  · intro q hq hstate
    rcases hcases q hq with ⟨hold, -, hpermit⟩ | rfl
    · refine forall_mem_append.mpr ⟨h.unfinished q hold hstate, forall_mem_singleton.mpr ?_⟩
      rw [hid]
      exact fun heq => hpermit (Option.some.inj heq).symm
    · rcases hstate with hstate | hstate
      · cases hstate
      · cases hstate
  · intro q hq hstate
    rcases hcases q hq with ⟨hold, -, -⟩ | rfl
    · obtain ⟨hqcount, r, hr, hrid⟩ := h.complete q hold hstate
      exact ⟨hqcount, r, mem_append_left _ hr, hrid⟩
    · exact ⟨hcount, receipt, mem_append_right _ (mem_singleton_self _), hid⟩
  · intro q hq hstate
    rcases hcases q hq with ⟨hold, -, hpermit⟩ | rfl
    · refine forall_mem_append.mpr
        ⟨h.committed q hold hstate, forall_mem_singleton.mpr fun hrid => ?_⟩
      rw [hid] at hrid
      exact absurd (Option.some.inj hrid).symm hpermit
    · refine forall_mem_append.mpr ⟨fun r hr hrid => ?_, forall_mem_singleton.mpr fun _ => ?_⟩
      · exact absurd hrid (h.unfinished plan hplan (.inr hready) r hr)
      · exact ⟨houtcome, hwrote⟩

lemma moved (h : l.PlansKept wrote) (hl : l.Sound) {plan : ArtifactCommitPlanRecord}
    (hplan : plan ∈ l.plans) (hopen : plan.state ≠ .finalized)
    (hstate : state = .publishing ∨ state = .ready)
    (hreceipts : ∀ r ∈ l.receipts, r.permitId ≠ some plan.permitId)
    (hrows : ∀ row ∈ rows, row.1 = plan.planId) : { l with
      plans := movePlan plan.planId plan.state state l.plans
      publications := l.publications ++ rows }.PlansKept wrote := by
  have hcases : ∀ q ∈ movePlan plan.planId plan.state state l.plans,
      (q ∈ l.plans ∧ q.planId ≠ plan.planId) ∨ q = { plan with state := state } := by
    intro q hq
    rcases mem_updateRows.mp hq with ⟨hold, hcond⟩ | ⟨old, hold, hcond, rfl⟩
    · refine .inl ⟨hold, ?_⟩
      intro heq
      obtain rfl := hl.plans.eq hold hplan heq
      exact hcond ⟨rfl, rfl⟩
    · obtain rfl := hl.plans.eq hold hplan hcond.1
      exact .inr rfl
  have hrow : ∀ {planId}, planId ≠ plan.planId → ∀ row ∈ rows, row.1 ≠ planId :=
    fun hne row hr heq => hne (heq.symm.trans (hrows row hr))
  refine ⟨?_, ?_, ?_, ?_, ?_, ?_⟩
  · intro row hr
    obtain ⟨q, hq, hqid⟩ : ∃ q ∈ l.plans, q.planId = row.1 := by
      rcases mem_append.mp hr with hr | hr
      · exact h.owned row hr
      · exact ⟨plan, hplan, (hrows row hr).symm⟩
    rw [← hqid]
    exact exists_mem_movePlan hq
  · intro q hq hqstate
    rcases hcases q hq with ⟨hold, -⟩ | rfl
    · exact h.unreceipted q hold hqstate
    · exact h.unreceipted plan hplan hopen
  · intro q hq hqstate row hr
    rcases hcases q hq with ⟨hold, hne⟩ | rfl
    · rcases mem_append.mp hr with hr | hr
      · exact h.planned q hold hqstate row hr
      · exact hrow hne row hr
    · rcases hstate with rfl | rfl
      · cases hqstate
      · cases hqstate
  · intro q hq hqstate r hr
    rcases hcases q hq with ⟨hold, -⟩ | rfl
    · exact h.unfinished q hold hqstate r hr
    · exact hreceipts r hr
  · intro q hq hqstate
    rcases hcases q hq with ⟨hold, hne⟩ | rfl
    · obtain ⟨hcount, hreceipt⟩ := h.complete q hold hqstate
      exact ⟨(published_append_of_ne (hrow hne)).trans hcount, hreceipt⟩
    · rcases hstate with rfl | rfl
      · cases hqstate
      · cases hqstate
  · intro q hq hqstate r hr hid
    rcases hcases q hq with ⟨hold, -⟩ | rfl
    · exact h.committed q hold hqstate r hr hid
    · rcases hstate with rfl | rfl
      · cases hqstate
      · cases hqstate

lemma added (h : l.PlansKept wrote)
    (hfresh : ∀ q ∈ l.plans, q.planId ≠ plan.planId ∧ q.permitId ≠ plan.permitId)
    (hplanned : plan.state = .planned) (hnone : plan.taskReceiptId = none) :
    { l with plans := l.plans ++ [plan] }.PlansKept wrote := by
  have hcases : ∀ q ∈ l.plans ++ [plan], q ∈ l.plans ∨ q = plan := by
    intro q hq
    exact (mem_append.mp hq).imp_right mem_singleton.mp
  refine ⟨?_, ?_, ?_, ?_, ?_, ?_⟩
  · intro row hrow
    obtain ⟨q, hq, hid⟩ := h.owned row hrow
    exact ⟨q, mem_append_left _ hq, hid⟩
  · intro q hq hstate
    rcases hcases q hq with hold | rfl
    · exact h.unreceipted q hold hstate
    · exact hnone
  · intro q hq hstate row hrow
    rcases hcases q hq with hold | rfl
    · exact h.planned q hold hstate row hrow
    · obtain ⟨owner, howner, hid⟩ := h.owned row hrow
      rw [← hid]
      exact (hfresh owner howner).1
  · intro q hq hstate
    rcases hcases q hq with hold | rfl
    · exact h.unfinished q hold hstate
    · simp [hplanned] at hstate
  · intro q hq hstate
    rcases hcases q hq with hold | rfl
    · exact h.complete q hold hstate
    · simp [hplanned] at hstate
  · intro q hq hstate
    rcases hcases q hq with hold | rfl
    · exact h.committed q hold hstate
    · simp [hplanned] at hstate

lemma step (h : l.PlansKept wrote) (hl : l.Sound)
    (hchange : Change l mark l')
    (hkeeps : ∀ permitId, mark = .terminated permitId → ∀ plan ∈ l.plans,
      plan.permitId = permitId → plan.state = .planned ∨ plan.state = .finalized)
    (hwrites : ∀ permitId planId, mark = .planCommitted permitId planId →
      ∀ receipt, (∀ r ∈ l.receipts, r.receiptId ≠ receipt.receiptId) → wrote planId receipt) :
    l'.PlansKept wrote := by
  cases hchange with
  | registered | cancelled | entered | lost | tokened | issued | slotMoved | bound | held | noted =>
    exact { h with }
  | receipted hclosure =>
    refine h.receipted ?_
    intro plan _ _
    simp [hclosure.permitId]
  | @terminated p attempt receipt state plans _ hterm _ hclosing =>
    cases hclosing with
    | untouched =>
      refine h.receipted ?_
      intro plan hplan hstate hid
      rw [hterm.permitId] at hid
      have hpermit := Option.some.inj hid
      rcases hkeeps p.permitId rfl plan hplan hpermit.symm with hplanned | hfinalized
      · exact hstate hplanned
      · -- a finalized plan has its receipt already, so its permit is not issued
        obtain ⟨-, r, hr, hrid⟩ := h.complete plan hplan hfinalized
        obtain ⟨q, hq, hqid, -, hended⟩ := hl.receipt_permit r hr plan.permitId hrid
        obtain rfl := hl.permits.eq hq hterm.mem (hqid.trans hpermit.symm)
        rw [hterm.issued] at hended
        cases hended
    | @committed plan hplan hid hready houtcome hcount =>
      refine h.planCommitted hl hplan hready hcount ?_ houtcome ?_
      · rw [hterm.permitId, hid]
      · exact hwrites p.permitId plan.planId rfl receipt hterm.fresh
  | planned hfresh hplanned hnone => exact h.added hfresh hplanned hnone
  | authorized hplan hplanned hissued =>
    obtain ⟨p, hp, hid, hstate⟩ := hissued
    have hmoved := h.moved hl hplan (by simp [hplanned]) (.inl rfl) ?_ (forall_mem_nil _)
    · rw [append_nil, hplanned] at hmoved
      exact hmoved
    · intro r hr hrid
      obtain ⟨q, hq, hqid, -, hended⟩ := hl.receipt_permit r hr _ hrid
      obtain rfl := hl.permits.eq hq hp (hqid.trans hid.symm)
      rw [hstate] at hended
      cases hended
  | published hplan hold hnew hrows =>
    refine h.moved hl hplan ?_ hnew ?_ fun row hrow => (hrows row hrow).1
    · rcases hold with hold | hold
      · simp [hold]
      · simp [hold]
    · exact h.unfinished _ hplan hold

end PlansKept

end Ledger

/-! ### Runs -/

def Disowns (s : TaskStore) (operation : Operation) : Prop :=
  ∃ plan ∈ s.artifactPlans, (plan.state = .publishing ∨ plan.state = .ready) ∧
    s.MayTerminate plan.permitId operation

def CommitsPlan (e : Event TaskStore Operation Answer) (planId : Id)
    (receipt : TaskReceiptRecord) : Prop :=
  e.input = .finalizeArtifactCommit planId ∧ receipt ∉ e.pre.receipts ∧
    ∃ t, e.pre.step e.input = .ok (t, e.output) ∧ receipt ∈ t.receipts

/-- A call that disowns no plan keeps the plans and the receipts of their permits in step. -/
lemma plansKept_of_step
    {wrote : Id → TaskReceiptRecord → Prop} (hsound : t.ledger.Sound)
    (hstep : t.step operation = .ok (u, answer)) (hkeep : ¬ Disowns t operation)
    (h : t.ledger.PlansKept wrote) : u.ledger.PlansKept fun planId r =>
      wrote planId r ∨ operation = .finalizeArtifactCommit planId ∧ r ∉ t.receipts := by
  have hinv := (steps_of_step hsound hstep).invariant
    (P := fun l => l.Sound ∧ t.receipts ⊆ l.receipts ∧
      ((∃ permitId, t.MayTerminate permitId operation) → l.plans = t.artifactPlans) ∧
      l.PlansKept fun planId r =>
        wrote planId r ∨ operation = .finalizeArtifactCommit planId ∧ r ∉ t.receipts) ?_
    ⟨hsound, List.Subset.refl _, fun _ => rfl, h.mono .inl⟩
  · exact hinv.2.2.2
  rintro l l' mark hmarked ⟨hl, hreceipts, hplans, hkept⟩ hchange
  refine ⟨hchange.sound hl, List.Subset.trans hreceipts hchange.receipts_subset, ?_, ?_⟩
  · rintro ⟨permitId, hterminate⟩
    rw [← hplans ⟨permitId, hterminate⟩]
    cases hchange with
    | registered | cancelled | entered | lost | receipted | tokened | issued | slotMoved | bound
    | held | noted => rfl
    | terminated _ _ hclosing =>
      cases hclosing with
      | untouched => rfl
      | committed =>
        obtain ⟨-, rfl⟩ := hmarked
        exact hterminate.elim
    | planned | authorized | published =>
      cases operation <;> first | exact hmarked.elim | exact hterminate.elim
  · refine hkept.step hl hchange ?_ ?_
    · rintro permitId rfl plan hplan rfl
      rw [hplans ⟨plan.permitId, hmarked.2⟩] at hplan
      cases hstate : plan.state with
      | planned => exact .inl rfl
      | finalized => exact .inr rfl
      | publishing => exact absurd ⟨plan, hplan, .inl hstate, hmarked.2⟩ hkeep
      | ready => exact absurd ⟨plan, hplan, .inr hstate, hmarked.2⟩ hkeep
    · rintro permitId planId rfl receipt hfresh
      refine .inr ⟨hmarked.2, ?_⟩
      intro hold
      exact hfresh receipt (hreceipts hold) rfl

lemma CommitsPlan.ready (h : CommitsPlan e planId receipt) :
    ∃ plan ∈ e.pre.artifactPlans, plan.planId = planId ∧ plan.state = .ready ∧
      e.pre.ledger.published planId = plan.expectations.length := by
  obtain ⟨hinput, hnew, t, hstep, hreceipt⟩ := h
  rw [hinput] at hstep
  rcases transact_cases (Except.ok.inj hstep) with rfl | ⟨decision, hcall, -⟩
  · exact absurd hreceipt hnew
  · simp only [finalizeArtifactCommit, bind_eq_ok] at hcall
    obtain ⟨plan, hplan, _, hprogress, hcall⟩ := hcall
    obtain ⟨hmem, rfl⟩ := mem_of_loadPlan hplan
    split at hcall
    · simp only [bind_eq_ok, pure_eq_ok, Prod.mk.injEq] at hcall
      obtain ⟨-, -, -, -, rfl, -⟩ := hcall
      exact absurd hreceipt hnew
    · simp only [bind_eq_ok, refuseIf_eq_ok, not_not] at hcall
      obtain ⟨-, hready, -⟩ := hcall
      have hcount := length_of_validateProgress hprogress hready
      rw [length_loadPublications] at hcount
      exact ⟨plan, hmem, rfl, hready, hcount⟩

variable {profile : ScaleProfile} {authorityId : Id}
  {h : List (Event TaskStore Operation Answer)} {s : TaskStore}

/-- The receipt of a finalized plan was written by the call that committed the plan. -/
lemma plansKept_of_run (hrun : AuthorityRun profile authorityId h s)
    (hkeep : ∀ e ∈ h, ¬ Disowns e.pre e.input) :
    s.ledger.PlansKept fun planId r => ∃ e ∈ h, CommitsPlan e planId r := by
  induction hrun with
  | refl =>
    exact ⟨forall_mem_nil _, forall_mem_nil _, forall_mem_nil _,
      forall_mem_nil _, forall_mem_nil _, forall_mem_nil _⟩
  | @snoc h t u operation answer hpre hstep ih =>
    have hbefore := ih fun e he => hkeep e (mem_append_left _ he)
    have hlast := hkeep _ (mem_append_right _ (mem_singleton_self _))
    have hafter := plansKept_of_step (sound_of_run hpre) hstep hlast hbefore
    refine { hafter with committed := ?_ }
    intro plan hplan hstate r hr hid
    obtain ⟨houtcome, hwrote⟩ := hafter.committed plan hplan hstate r hr hid
    refine ⟨houtcome, ?_⟩
    rcases hwrote with ⟨e, he, hcommits⟩ | ⟨rfl, hnew⟩
    · exact ⟨e, mem_append_left _ he, hcommits⟩
    · exact ⟨_, mem_append_right _ (mem_singleton_self _), rfl, hnew, u, hstep, hr⟩

/-- When no call may end the permit of a plan that is being published, the terminal receipt of the
permit of a plan with publications is the one its commit wrote once all was published. -/
theorem published_never_disowned (hrun : AuthorityRun profile authorityId h s)
    (hkeep : ∀ e ∈ h, ¬ Disowns e.pre e.input) :
    ∀ plan ∈ s.artifactPlans, (∃ row ∈ s.publications, row.1 = plan.planId) →
      ∀ receipt ∈ s.receipts, receipt.permitId = some plan.permitId →
        receipt.outcome = .committed ∧ ∃ e ∈ h, CommitsPlan e plan.planId receipt ∧
          ∃ ready ∈ e.pre.artifactPlans, ready.planId = plan.planId ∧ ready.state = .ready ∧
            e.pre.ledger.published plan.planId = ready.expectations.length := by
  intro plan hplan ⟨row, hrow, hrowPlan⟩ receipt hreceipt hid
  have hkept := plansKept_of_run hrun hkeep
  cases hstate : plan.state with
  | planned => exact absurd hrowPlan (hkept.planned plan hplan hstate row hrow)
  | publishing =>
    exact absurd hid (hkept.unfinished plan hplan (.inl hstate) receipt hreceipt)
  | ready => exact absurd hid (hkept.unfinished plan hplan (.inr hstate) receipt hreceipt)
  | finalized =>
    obtain ⟨houtcome, e, he, hcommits⟩ := hkept.committed plan hplan hstate receipt hreceipt hid
    exact ⟨houtcome, e, he, hcommits, hcommits.ready⟩

theorem published_never_disowned_committing :
    ∃ h s, AuthorityRun Sample.profile 0 h s ∧ (∀ e ∈ h, ¬ Disowns e.pre e.input) ∧
      ∃ plan ∈ s.artifactPlans, ∃ receipt ∈ s.receipts, receipt.permitId = some plan.permitId ∧
        receipt.outcome = .committed := by
  obtain ⟨h, s, hrun, hinputs, hcheck⟩ := Sample.exists_committing
  obtain ⟨plan, hplan, hrow, receipt, hreceipt, hid⟩ := of_decide_eq_true hcheck
  have hkeep : ∀ e ∈ h, ¬ Disowns e.pre e.input := by
    rintro e he ⟨other, -, -, hterminate⟩
    have hinput : e.input ∈ Sample.committing := hinputs ▸ mem_map_of_mem he
    simp only [Sample.committing, Sample.publishing, Sample.registering, cons_append,
      nil_append, mem_cons, not_mem_nil, or_false] at hinput
    rcases hinput with hinput | hinput | hinput | hinput | hinput | hinput | hinput <;>
    · rw [hinput] at hterminate
      exact hterminate
  exact ⟨h, s, hrun, hkeep, plan, hplan, receipt, hreceipt, hid,
    (published_never_disowned hrun hkeep plan hplan hrow receipt hreceipt hid).1⟩

/-- A permit is closed as failed although its artifact has been published. -/
theorem closePermit_disowns_publication : ∃ h s, AuthorityRun Sample.profile 0 h s ∧
      ∃ plan ∈ s.artifactPlans, (∃ row ∈ s.publications, row.1 = plan.planId) ∧
        ∃ receipt ∈ s.receipts, receipt.permitId = some plan.permitId ∧
          receipt.outcome = .failedBeforeEffect := by
  have hrun : ∃ h s, AuthorityRun Sample.profile 0 h s ∧
      h.map Event.input = Sample.publishing none ++ [Sample.closePermit none] ∧
      decide (∃ plan ∈ s.artifactPlans, (∃ row ∈ s.publications, row.1 = plan.planId) ∧
        ∃ receipt ∈ s.receipts, receipt.permitId = some plan.permitId ∧
          receipt.outcome = .failedBeforeEffect) = true :=
    exists_run_of_runCheck (f := TaskStore.step) (s := .empty Sample.profile 0) (by decide +kernel)
  obtain ⟨h, s, hrun, -, hcheck⟩ := hrun
  exact ⟨h, s, hrun, of_decide_eq_true hcheck⟩

end Nlos.Task
