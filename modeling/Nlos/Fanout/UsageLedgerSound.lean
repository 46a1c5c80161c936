import Nlos.Fanout.UsageLedger

/-!
# The quota ledger never over-commits

On every axis the reserved counter is the sum over the active reservations, what was settled is
committed, and both together keep within the contract.
-/

namespace Nlos.Fanout

open Lib Capability List Amounts

/-! ## Both arithmetics -/

def Exact {α : Type} (x : Option α) (y : Id α) : Prop := x = some y.run

namespace Exact

variable {α β : Type} {x : Option α} {y : Id α}

lemma pure (a : α) : Exact (Pure.pure a) (Pure.pure a) := rfl

lemma bind (h : Exact x y) {f : α → Option β} (hf : Exact (f y.run) (g y.run)) :
    Exact (x >>= f) (y >>= g) := by
  unfold Exact at h
  subst h
  exact hf

lemma map (h : Exact x y) (f : α → β) : Exact (f <$> x) (f <$> y) := by
  unfold Exact at h
  subst h
  rfl

end Exact

lemma Amounts.exact_add (h : ∀ a, (u a).val + (v a).val < 256 ^ a.width) :
    Exact (checked.add u v) (saturating.add u v) :=
  if_pos h

lemma Amounts.exact_sub (h : ∀ a, v a ≤ u a) :
    Exact (checked.sub u v) (saturating.sub u v) :=
  if_pos h

namespace FanoutUsageLedger

variable {s t : FanoutUsageLedger} {request : FanoutReservationRequest}

/-- The ledger is in order when the waiters still to be decided are `waiting`. -/
structure SoundWith (s : FanoutUsageLedger) (waiting : List (U64 × FanoutReservationRequest)) :
    Prop where
  reserved : ∀ a, (s.reserved a).val =
    Table.sum (fun r : FanoutReservationRequest => (r.amounts a).val) s.activeReservations
  within : ∀ a, (s.committed a).val + (s.reserved a).val ≤ (s.contract.maximum a).val
  nodup : (waiting.map fun waiter => waiter.2.reservationId).Nodup
  fresh : ∀ waiter ∈ waiting, s.activeReservations[waiter.2.reservationId]? = none

def Sound (s : FanoutUsageLedger) : Prop := s.SoundWith s.waitingQueue

variable {waiting rest : List (U64 × FanoutReservationRequest)}

section Within

variable (h : ∀ a, (s.committed a).val + (s.reserved a).val ≤ (s.contract.maximum a).val)

include h

lemma fits (a : FanoutAxis) : (s.committed a).val + (s.reserved a).val < 256 ^ a.width :=
  (h a).trans_lt (s.contract.maximum a).isLt

lemma used_le (a : FanoutAxis) :
    s.committed.saturatingAdd s.reserved a ≤ s.contract.maximum a := by
  rw [Fin.le_def, saturatingAdd, Word.saturatingAdd_val (fits h a)]
  exact h a

lemma exact_headroom : Exact (s.headroom checked) (s.headroom saturating) :=
  (exact_add (fits h)).bind (exact_sub (used_le h))

lemma exact_saturatedAxesFor (request : FanoutReservationRequest) :
    Exact (s.saturatedAxesFor checked request) (s.saturatedAxesFor saturating request) :=
  (exact_headroom h).bind (.pure _)

lemma fits_of_saturatedAxesFor (hnil : (s.saturatedAxesFor saturating request).run = [])
    (a : FanoutAxis) : (s.committed a).val + (s.reserved a).val + (request.amounts a).val ≤
      (s.contract.maximum a).val := by
  have hle : request.amounts a ≤
      s.contract.maximum.saturatingSub (s.committed.saturatingAdd s.reserved) a := by
    refine not_lt.mp fun hlt => ?_
    exact filter_eq_nil_iff.mp hnil a a.mem_all (decide_eq_true hlt)
  rw [Fin.le_def, saturatingSub, Word.saturatingSub_val, saturatingAdd,
    Word.saturatingAdd_val (fits h a)] at hle
  have hwithin := h a
  omega

end Within

/-- A request that fits moves from the queue to the reserved amounts without saturation. -/
lemma applyReservation_spec {ticket : U64} (hs : s.SoundWith ((ticket, request) :: rest))
    (hnil : (s.saturatedAxesFor saturating request).run = []) :
    Exact (s.applyReservation checked request) (s.applyReservation saturating request) ∧
      (s.applyReservation saturating request).run.SoundWith rest := by
  have hfits := fits_of_saturatedAxesFor hs.within hnil
  have hlt (a : FanoutAxis) : (s.reserved a).val + (request.amounts a).val < 256 ^ a.width := by
    have hmax := (s.contract.maximum a).isLt
    have hle := hfits a
    omega
  obtain ⟨hnew, hnodup⟩ := nodup_cons.mp hs.nodup
  have hnone := hs.fresh _ (mem_cons_self)
  have hval (a : FanoutAxis) : (s.reserved.saturatingAdd request.amounts a).val =
      (s.reserved a).val + (request.amounts a).val := Word.saturatingAdd_val (hlt a)
  refine ⟨(exact_add hlt).bind (.pure _), fun a => ?_, fun a => ?_, hnodup, ?_⟩
  · refine (hval a).trans ?_
    rw [hs.reserved a]
    exact (Table.sum_insert_of_none (fun r : FanoutReservationRequest => (r.amounts a).val) request
      hnone).symm
  · have hle := hfits a
    change (s.committed a).val + (s.reserved.saturatingAdd request.amounts a).val ≤ _
    rw [hval a]
    exact (Nat.add_assoc _ _ _).symm.le.trans hle
  · intro waiter hwaiter
    have hne : request.reservationId ≠ waiter.2.reservationId := by
      intro heq
      exact hnew (mem_map.mpr ⟨waiter, hwaiter, heq.symm⟩)
    exact (Table.getElem?_insert_ne hne).trans (hs.fresh _ (mem_cons_of_mem _ hwaiter))

def SameTerms (s t : FanoutUsageLedger) : Prop :=
  t.contract = s.contract ∧ t.committed = s.committed

lemma SoundWith.of_perm (hs : s.SoundWith waiting) (hperm : rest.Perm waiting) :
    s.SoundWith rest :=
  ⟨hs.reserved, hs.within, (hperm.map _).nodup_iff.mpr hs.nodup,
    fun w hw => hs.fresh w (hperm.mem_iff.mp hw)⟩

/-- Promotion of one waiter overflows nowhere and keeps the books. -/
lemma promote_spec {waiter : U64 × FanoutReservationRequest}
    (hs : d.ledger.SoundWith (d.remaining ++ waiter :: rest)) :
    Exact (promote checked d waiter) (promote saturating d waiter) ∧
      (promote saturating d waiter).run.ledger.SoundWith
        ((promote saturating d waiter).run.remaining ++ rest) ∧
      d.ledger.SameTerms (promote saturating d waiter).run.ledger := by
  have hs' := hs.of_perm perm_middle.symm
  have haxes := exact_saturatedAxesFor hs.within waiter.2
  by_cases hnil : (d.ledger.saturatedAxesFor saturating waiter.2).run = []
  · obtain ⟨hexact, hsound⟩ := applyReservation_spec hs' hnil
    have hpromote : promote saturating d waiter = (d.ledger.applyReservation saturating waiter.2 >>=
        fun ledger => pure { d with
          ledger, promoted := d.promoted ++ [(waiter.1, waiter.2.reservationId)] }) :=
      if_pos hnil
    refine ⟨haxes.bind ?_, ?_⟩
    · rw [if_pos hnil, if_pos hnil]
      exact hexact.bind (.pure _)
    · rw [hpromote]
      exact ⟨hsound, rfl, rfl⟩
  · have hpromote : promote saturating d waiter =
        pure { d with remaining := d.remaining ++ [waiter] } := if_neg hnil
    refine ⟨haxes.bind ?_, ?_⟩
    · rw [if_neg hnil, if_neg hnil]
      exact .pure _
    · rw [hpromote]
      exact ⟨hs.of_perm (by simp), rfl, rfl⟩

lemma foldlM_promote_spec {d : Draining} (hs : d.ledger.SoundWith (d.remaining ++ rest)) :
    Exact (rest.foldlM (promote checked) d) (rest.foldlM (promote saturating) d) ∧
      (rest.foldlM (promote saturating) d).run.ledger.SoundWith
        (rest.foldlM (promote saturating) d).run.remaining ∧
      d.ledger.SameTerms (rest.foldlM (promote saturating) d).run.ledger := by
  induction rest generalizing d with
  | nil => exact ⟨rfl, by simpa using hs, rfl, rfl⟩
  | cons waiter rest ih =>
    obtain ⟨hexact, hsound, hcontract, hcommitted⟩ := promote_spec hs
    obtain ⟨hexact', hsound', hcontract', hcommitted'⟩ := ih hsound
    rw [foldlM_cons, foldlM_cons]
    exact ⟨hexact.bind hexact', hsound', hcontract'.trans hcontract, hcommitted'.trans hcommitted⟩

/-- Checked and saturating arithmetic agree on the whole drain. -/
lemma drainAdmissibleWaiters_spec (hs : s.Sound) :
    Exact (s.drainAdmissibleWaiters checked) (s.drainAdmissibleWaiters saturating) ∧
      (s.drainAdmissibleWaiters saturating).run.1.Sound ∧
      s.SameTerms (s.drainAdmissibleWaiters saturating).run.1 := by
  unfold drainAdmissibleWaiters
  split
  · exact ⟨rfl, hs, rfl, rfl⟩
  · obtain ⟨hexact, hsound, hterms⟩ :=
      foldlM_promote_spec (d := ⟨s, [], []⟩) hs
    refine ⟨hexact.bind (.pure _), ?_, hterms⟩
    exact ⟨hsound.reserved, hsound.within, hsound.nodup, hsound.fresh⟩

lemma settlementReport_spec (hs : s.Sound) :
    Exact (s.settlementReport checked) (s.settlementReport saturating) ∧
      (s.settlementReport saturating).run.1.Sound ∧
      s.SameTerms (s.settlementReport saturating).run.1 := by
  obtain ⟨hexact, hsound, hterms⟩ := drainAdmissibleWaiters_spec hs
  exact ⟨hexact.bind ((exact_headroom hsound.within).bind (.pure _)), hsound, hterms⟩

/-- A settlement commits exactly the actual usage. -/
lemma settleReservation_spec (hs : s.Sound) (id : ReservationId) (actual : FanoutActualUsage) :
    Exact (s.settleReservation checked id actual) (s.settleReservation saturating id actual) ∧
      ∀ t report, (s.settleReservation saturating id actual).run = .ok (t, report) →
        t.Sound ∧ t.contract = s.contract ∧
          ∀ a, (t.committed a).val = (s.committed a).val + (actual.amounts a).val := by
  unfold settleReservation
  cases hactive : s.activeReservations[id]? with
  | none => exact ⟨rfl, fun t report h => by cases h⟩
  | some reservation =>
    dsimp only
    cases hover : FanoutAxis.all.find? fun a => reservation.amounts a < actual.amounts a with
    | some => exact ⟨rfl, fun t report h => by cases h⟩
    | none =>
      have hle (a : FanoutAxis) : (actual.amounts a).val ≤ (reservation.amounts a).val := by
        simpa using find?_eq_none.mp hover a a.mem_all
      have hpart (a : FanoutAxis) : (reservation.amounts a).val ≤ (s.reserved a).val := by
        rw [hs.reserved a]
        exact Table.le_sum (fun r : FanoutReservationRequest => (r.amounts a).val) hactive
      have hlt (a : FanoutAxis) :
          (s.committed a).val + (actual.amounts a).val < 256 ^ a.width := by
        have := fits hs.within a
        have := hle a
        have := hpart a
        omega
      have hadd (a : FanoutAxis) : (s.committed.saturatingAdd actual.amounts a).val =
          (s.committed a).val + (actual.amounts a).val := Word.saturatingAdd_val (hlt a)
      have hsub (a : FanoutAxis) : (s.reserved.saturatingSub reservation.amounts a).val =
          (s.reserved a).val - (reservation.amounts a).val := Word.saturatingSub_val _ _
      have hsettled : FanoutUsageLedger.Sound { s with
          activeReservations := s.activeReservations.erase id
          reserved := s.reserved.saturatingSub reservation.amounts
          committed := s.committed.saturatingAdd actual.amounts } := by
        refine ⟨fun a => ?_, fun a => ?_, hs.nodup, fun w hw => ?_⟩
        · have hsum := Table.sum_erase (fun r : FanoutReservationRequest => (r.amounts a).val)
            hactive
          rw [← hs.reserved a] at hsum
          exact (hsub a).trans (Nat.sub_eq_of_eq_add hsum.symm)
        · have := hs.within a
          have := hle a
          have := hpart a
          change (s.committed.saturatingAdd actual.amounts a).val +
            (s.reserved.saturatingSub reservation.amounts a).val ≤ (s.contract.maximum a).val
          rw [hadd a, hsub a]
          omega
        · rw [Std.ExtTreeMap.getElem?_erase]
          split
          · rfl
          · exact hs.fresh w hw
      obtain ⟨hexact, hsound, hcontract, hcommitted⟩ := settlementReport_spec hsettled
      refine ⟨(exact_sub hpart).bind ((exact_add hlt).bind (hexact.map _)), ?_⟩
      intro t report h
      obtain rfl : _ = t := congrArg Prod.fst (Except.ok.inj h)
      refine ⟨hsound, hcontract, fun a => ?_⟩
      exact (congrArg (fun u : Amounts => (u a).val) hcommitted).trans (hadd a)

lemma admitNew_spec (hs : s.Sound) (hactive : s.activeReservations[request.reservationId]? = none)
    (hqueued : ∀ waiter ∈ s.waitingQueue, waiter.2.reservationId ≠ request.reservationId) :
    Exact (s.admitNew checked request) (s.admitNew saturating request) ∧
      (s.admitNew saturating request).run.1.Sound ∧
      s.SameTerms (s.admitNew saturating request).run.1 := by
  have hqueue (ticket : U64) : s.SoundWith (s.waitingQueue ++ [(ticket, request)]) := by
    refine ⟨hs.reserved, hs.within, ?_, ?_⟩
    · rw [map_append, nodup_append]
      refine ⟨hs.nodup, by simp, ?_⟩
      rintro _ hx _ hy rfl
      obtain ⟨waiter, hwaiter, hid⟩ := mem_map.mp hx
      exact hqueued waiter hwaiter (hid.trans (by simpa using hy))
    · intro waiter hwaiter
      rcases mem_append.mp hwaiter with hold | hnew
      · exact hs.fresh waiter hold
      · rw [mem_singleton.mp hnew]
        exact hactive
  have haxes := exact_saturatedAxesFor hs.within request
  unfold admitNew
  split
  · exact ⟨rfl, hs, rfl, rfl⟩
  · split
    · exact ⟨rfl, hs, rfl, rfl⟩
    · by_cases hroom : (s.saturatedAxesFor saturating request).run = [] ∧ s.waitingQueue = []
      · have hs' := hqueue 0
        rw [hroom.2] at hs'
        obtain ⟨hexact, hsound⟩ := applyReservation_spec hs' hroom.1
        have hsound' : (s.applyReservation saturating request).run.Sound := by
          change FanoutUsageLedger.SoundWith _ s.waitingQueue
          rw [hroom.2]
          exact hsound
        refine ⟨haxes.bind ?_, ?_⟩
        · rw [if_pos hroom, if_pos hroom]
          exact hexact.bind ((exact_headroom hsound.within).bind (.pure _))
        · rw [Id.run_bind, if_pos hroom]
          exact ⟨hsound', rfl, rfl⟩
      · refine ⟨haxes.bind ?_, ?_⟩
        · rw [if_neg hroom, if_neg hroom]
          split <;> exact .pure _
        · rw [Id.run_bind, if_neg hroom]
          split
          · exact ⟨hs, rfl, rfl⟩
          · exact ⟨⟨hs.reserved, hs.within, (hqueue _).nodup, (hqueue _).fresh⟩, rfl, rfl⟩

/-- A request is admitted, queued or refused without overflow. -/
lemma requestAdmission_spec (hs : s.Sound) (request : FanoutReservationRequest) :
    Exact (s.requestAdmission checked request) (s.requestAdmission saturating request) ∧
      ∀ t decision, (s.requestAdmission saturating request).run = .ok (t, decision) →
        t.Sound ∧ s.SameTerms t := by
  unfold requestAdmission
  cases hactive : s.activeReservations[request.reservationId]? with
  | some =>
    dsimp only
    split
    · refine ⟨(exact_headroom hs.within).bind (.pure _), fun t decision h => ?_⟩
      cases h
      exact ⟨hs, rfl, rfl⟩
    · exact ⟨rfl, fun t decision h => by cases h⟩
  | none =>
    dsimp only
    cases hqueued : s.waitingQueue.find? fun waiter =>
        waiter.2.reservationId = request.reservationId with
    | some waiter =>
      dsimp only
      split
      · refine ⟨(exact_saturatedAxesFor hs.within request).bind (.pure _), fun t decision h => ?_⟩
        cases h
        exact ⟨hs, rfl, rfl⟩
      · exact ⟨rfl, fun t decision h => by cases h⟩
    | none =>
      obtain ⟨hexact, hsound⟩ := admitNew_spec hs hactive fun waiter hwaiter => by
        simpa using find?_eq_none.mp hqueued waiter hwaiter
      refine ⟨hexact.map _, fun t decision h => ?_⟩
      obtain rfl : _ = t := congrArg Prod.fst (Except.ok.inj h)
      exact hsound

def settles (a : FanoutAxis) : LedgerCall → ℕ
  | .settleReservation _ actual => (actual.amounts a).val
  | _ => 0

/-- A new contract is not lower than the current one on any axis. -/
def Raises (s : FanoutUsageLedger) : LedgerCall → Prop
  | .extendQuotaContract contract => ∀ a, s.contract.maximum a ≤ contract.maximum a
  | _ => True

/-- One call of a sound ledger: no sum saturates, and only settlements add to the committed usage.
-/
lemma call_spec (hs : s.Sound) {call} (hraises : s.Raises call) :
    Exact (s.call checked call) (s.call saturating call) ∧
      ∀ t answer, (s.call saturating call).run = .ok (t, answer) →
        t.Sound ∧ ∀ a, (t.committed a).val = (s.committed a).val + settles a call := by
  cases call with
  | requestAdmission request =>
    obtain ⟨hexact, hsound⟩ := requestAdmission_spec hs request
    refine ⟨hexact.map _, fun t answer h => ?_⟩
    obtain ⟨decision, hok, -⟩ := map_snd_eq_ok.mp h
    obtain ⟨hsound, -, hcommitted⟩ := hsound t decision hok
    exact ⟨hsound, fun a => by rw [hcommitted]; rfl⟩
  | settleReservation reservationId actual =>
    obtain ⟨hexact, hsound⟩ := settleReservation_spec hs reservationId actual
    refine ⟨hexact.map _, fun t answer h => ?_⟩
    obtain ⟨report, hok, -⟩ := map_snd_eq_ok.mp h
    obtain ⟨hsound, -, hcommitted⟩ := hsound t report hok
    exact ⟨hsound, hcommitted⟩
  | cancelReservation reservationId =>
    obtain ⟨hexact, hsound⟩ := settleReservation_spec hs reservationId .default
    refine ⟨hexact.map _, fun t answer h => ?_⟩
    obtain ⟨report, hok, -⟩ := map_snd_eq_ok.mp h
    obtain ⟨hsound, -, hcommitted⟩ := hsound t report hok
    exact ⟨hsound, hcommitted⟩
  | setLifecycle lifecycle =>
    refine ⟨rfl, fun t answer h => ?_⟩
    obtain rfl : (s.setLifecycle lifecycle).1 = t := congrArg Prod.fst (Except.ok.inj h)
    unfold setLifecycle
    split
    · exact ⟨⟨hs.reserved, hs.within, nodup_nil, by simp⟩, fun a => rfl⟩
    · exact ⟨⟨hs.reserved, hs.within, hs.nodup, hs.fresh⟩, fun a => rfl⟩
  | extendQuotaContract contract =>
    have hextended : FanoutUsageLedger.Sound { s with contract } :=
      ⟨hs.reserved, fun a => (hs.within a).trans (hraises a), hs.nodup, hs.fresh⟩
    obtain ⟨hexact, hsound, -, hcommitted⟩ := settlementReport_spec hextended
    refine ⟨hexact.map _, fun t answer h => ?_⟩
    obtain rfl : _ = t := congrArg Prod.fst (Except.ok.inj h)
    exact ⟨hsound, fun a => congrArg (fun u : Amounts => (u a).val) hcommitted⟩

abbrev LedgerEvent := Event FanoutUsageLedger LedgerCall (Except LedgerError LedgerAnswer)

def LedgerEvent.settled (a : FanoutAxis) (e : LedgerEvent) : ℕ :=
  if e.output.isOk then settles a e.input else 0

lemma sound_new (contract : FanoutQuotaContract) : (new contract).Sound := by
  refine ⟨fun a => ?_, fun a => Nat.zero_le _, nodup_nil, by simp [new]⟩
  exact (Table.sum_empty _).symm

/-- Over every history of calls that never lowers the contract on an axis, the reserved counters
are the sums over the active reservations, the committed ones are the sums of what was settled, and
both together keep within the contract. Every further call has the same result in checked
arithmetic: no operation on the counters saturates. -/
theorem ledger_never_overcommits {contract : FanoutQuotaContract} {h : List LedgerEvent}
    (hrun : Run step (new contract) h s) (hraises : ∀ e ∈ h, e.pre.Raises e.input) :
    (∀ a, (s.reserved a).val = Table.sum (fun r : FanoutReservationRequest => (r.amounts a).val)
          s.activeReservations ∧ (s.committed a).val = (h.map (LedgerEvent.settled a)).sum ∧
      (s.committed a).val + (s.reserved a).val ≤ (s.contract.maximum a).val) ∧
    ∀ call, s.Raises call → s.call checked call = some (s.call saturating call).run := by
  have hhistory : s.Sound ∧ ∀ a, (s.committed a).val = (h.map (LedgerEvent.settled a)).sum := by
    induction hrun with
    | refl => exact ⟨sound_new contract, fun a => rfl⟩
    | @snoc h t u call answer hrun hstep ih =>
      obtain ⟨hsound, hcommitted⟩ := ih fun e he => hraises e (mem_append_left _ he)
      have hcall := (call_spec hsound (hraises ⟨t, call, answer⟩ (by simp))).2
      cases answer with
      | error =>
        obtain ⟨-, rfl⟩ := commit_eq_error.mp (Except.ok.inj hstep)
        refine ⟨hsound, fun a => ?_⟩
        simp [hcommitted a, LedgerEvent.settled, Except.isOk, Except.toBool]
      | ok b =>
        obtain ⟨hsound', hcommitted'⟩ := hcall u b (commit_eq_ok.mp (Except.ok.inj hstep))
        refine ⟨hsound', fun a => ?_⟩
        simp [hcommitted' a, hcommitted a, LedgerEvent.settled, Except.isOk, Except.toBool]
  obtain ⟨hsound, hcommitted⟩ := hhistory
  refine ⟨fun a => ⟨hsound.reserved a, hcommitted a, hsound.within a⟩, fun call hcall => ?_⟩
  exact (call_spec hsound hcall).1

def uniform (n : Fin (256 ^ 4)) : Amounts := fun a => ⟨n.val, by
  refine n.isLt.trans_le (Nat.pow_le_pow_right (by omega) ?_)
  cases a <;> decide⟩

def sampleContract : FanoutQuotaContract := ⟨1, uniform 5, 4, 0⟩

/-- One request is admitted, a second one waits, and settling the first admits it. -/
def sampleCalls : List LedgerCall :=
  [.requestAdmission ⟨1, 1, 0, uniform 4⟩, .requestAdmission ⟨2, 2, 0, uniform 3⟩,
    .settleReservation 1 ⟨Function.update (uniform 2) .activeAgents 0, by simp⟩]

theorem ledger_never_overcommits_sample :
    ∃ h s, Run step (new sampleContract) h s ∧ h.map Event.input = sampleCalls ∧
      (s.committed .writeBytes).val = 2 ∧ (s.reserved .writeBytes).val = 3 ∧
      (s.committed .writeBytes).val = (h.map (LedgerEvent.settled .writeBytes)).sum := by
  obtain ⟨h, s, hrun, hinputs, hcheck⟩ :=
    exists_run_of_runCheck (show runCheck step (new sampleContract) sampleCalls (fun _ s =>
      (s.committed .writeBytes).val = 2 ∧ (s.reserved .writeBytes).val = 3) = true by
        decide +kernel)
  have hraises : ∀ e ∈ h, e.pre.Raises e.input := by
    intro e he
    have hmem : e.input ∈ sampleCalls := hinputs ▸ mem_map.mpr ⟨e, he, rfl⟩
    simp only [sampleCalls, mem_cons, not_mem_nil, or_false] at hmem
    rcases hmem with heq | heq | heq <;> rw [heq] <;> trivial
  have hfinal := of_decide_eq_true hcheck
  exact ⟨h, s, hrun, hinputs, hfinal.1, hfinal.2,
    ((ledger_never_overcommits hrun hraises).1 .writeBytes).2.1⟩

end FanoutUsageLedger

end Nlos.Fanout
