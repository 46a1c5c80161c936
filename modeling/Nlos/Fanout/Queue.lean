import Nlos.Fanout.UsageLedgerSound

/-!
# The waiting queue of the quota ledger

Waiters hold ascending tickets and are promoted in the order of the queue, each as soon as it fits.
The head of the queue of an open group never fits, unless the group was reopened with waiters.
-/

namespace Nlos.Fanout

open Lib Capability List

namespace FanoutUsageLedger

variable {s t u : FanoutUsageLedger} {request other : FanoutReservationRequest}
  {call : LedgerCall} {answer : LedgerAnswer} {d : Draining}
  {waiters : List (U64 × FanoutReservationRequest)}

/-- The request does not fit on some axis. -/
def Blocked (s : FanoutUsageLedger) (request : FanoutReservationRequest) : Prop :=
  (s.saturatedAxesFor saturating request).run ≠ []

lemma blocked_iff : s.Blocked request ↔ ∃ a, (s.contract.maximum a).val -
    (s.committed.saturatingAdd s.reserved a).val < (request.amounts a).val := by
  simp only [Blocked, saturatedAxesFor, Id.run_bind, Id.run_pure, ne_eq, filter_eq_nil_iff,
    FanoutAxis.mem_all, forall_const, decide_eq_true_eq, not_forall, not_not]
  rfl

lemma Blocked.applyReservation (h : s.Blocked request) :
    (s.applyReservation saturating other).run.Blocked request := by
  obtain ⟨a, ha⟩ := blocked_iff.mp h
  refine blocked_iff.mpr ⟨a, (Nat.sub_le_sub_left ?_ _).trans_lt ha⟩
  change ((s.committed a).saturatingAdd (s.reserved a)).val ≤
    ((s.committed a).saturatingAdd ((s.reserved a).saturatingAdd (other.amounts a))).val
  simp only [Word.saturatingAdd]
  omega

/-- The drain leaves a waiter that is blocked where it is and admits any other. -/
lemma promote_run (d : Draining) (w : U64 × FanoutReservationRequest) : (d.ledger.Blocked w.2 ∧
        (promote saturating d w).run = { d with remaining := d.remaining ++ [w] }) ∨
      (¬ d.ledger.Blocked w.2 ∧ (promote saturating d w).run = { d with
        ledger := (d.ledger.applyReservation saturating w.2).run
        promoted := d.promoted ++ [(w.1, w.2.reservationId)] }) := by
  by_cases hnil : (d.ledger.saturatedAxesFor saturating w.2).run = []
  · refine .inr ⟨not_not.mpr hnil, ?_⟩
    exact congrArg Id.run (if_pos hnil : promote saturating d w = _)
  · refine .inl ⟨hnil, ?_⟩
    exact congrArg Id.run (if_neg hnil : promote saturating d w = _)

/-- An invariant of the drain: what both cases of one waiter preserve. -/
lemma drain_invariant {P : Draining → List (U64 × FanoutReservationRequest) → Prop}
    (hstay : ∀ d w rest, P d (w :: rest) → d.ledger.Blocked w.2 →
      P { d with remaining := d.remaining ++ [w] } rest)
    (hpromote : ∀ d w rest, P d (w :: rest) → ¬ d.ledger.Blocked w.2 → P { d with
      ledger := (d.ledger.applyReservation saturating w.2).run
      promoted := d.promoted ++ [(w.1, w.2.reservationId)] } rest)
    (h : P d waiters) : P (waiters.foldlM (promote saturating) d).run [] := by
  induction waiters generalizing d with
  | nil => exact h
  | cons w rest ih =>
    rw [foldlM_cons]
    refine ih (d := (promote saturating d w).run) ?_
    rcases promote_run d w with ⟨hblocked, heq⟩ | ⟨hfits, heq⟩ <;> rw [heq]
    · exact hstay d w rest h hblocked
    · exact hpromote d w rest h hfits

lemma blocked_of_drain
    (h : (s.waitingQueue.foldlM (promote saturating) ⟨s, [], []⟩).run = d') :
    ∀ w ∈ d'.remaining, d'.ledger.Blocked w.2 := by
  subst h
  refine drain_invariant (P := fun d _ => ∀ w ∈ d.remaining, d.ledger.Blocked w.2) ?_ ?_ (by simp)
  · intro d w rest hd hblocked x hx
    rcases mem_append.mp hx with hx | hx
    · exact hd x hx
    · rw [mem_singleton.mp hx]
      exact hblocked
  · intro d w rest hd _ x hx
    exact (hd x hx).applyReservation

/-- The ledger after the settlement of a reservation, before its queue is drained. -/
def settled (s : FanoutUsageLedger) (id : ReservationId) (reservation : FanoutReservationRequest)
    (actual : FanoutActualUsage) : FanoutUsageLedger :=
  { s with
    activeReservations := s.activeReservations.erase id
    reserved := s.reserved.saturatingSub reservation.amounts
    committed := s.committed.saturatingAdd actual.amounts }

inductive Change (s : FanoutUsageLedger) : LedgerCall → FanoutUsageLedger → Prop
  | same {call : LedgerCall} : Change s call s
  | admitted {request : FanoutReservationRequest} : s.waitingQueue = [] →
      request.requestedDepth ≤ s.contract.maxGroupDepth → ¬ s.Blocked request →
      Change s (.requestAdmission request) (s.applyReservation saturating request).run
  | queued {request : FanoutReservationRequest} {ticket} :
      (s.waitingQueue = [] → s.Blocked request) →
      request.requestedDepth ≤ s.contract.maxGroupDepth →
      ticket = s.nextWaitTicketSeq.saturatingAdd 1 →
      Change s (.requestAdmission request) { s with
        nextWaitTicketSeq := ticket
        waitingQueue := s.waitingQueue ++ [(ticket, request)] }
  | lifecycle {lifecycle} : Change s (.setLifecycle lifecycle) (s.setLifecycle lifecycle).1
  | settled {call : LedgerCall} {id reservation actual} :
      (∀ contract, call ≠ .extendQuotaContract contract) →
      Change s call ((s.settled id reservation actual).drainAdmissibleWaiters saturating).run.1
  | extended {contract} :
      Change s (.extendQuotaContract contract)
        (drainAdmissibleWaiters saturating { s with contract }).run.1

lemma change_of_admitNew (h : (s.admitNew saturating request).run = (t, decision)) :
    s.Change (.requestAdmission request) t := by
  obtain rfl := congrArg Prod.fst h
  unfold admitNew
  split
  · exact .same
  · split
    · exact .same
    · next hdepth =>
      rw [Id.run_bind]
      split
      · next hroom => exact .admitted hroom.2 (not_lt.mp hdepth) (not_not.mpr hroom.1)
      · next hroom =>
        split
        · exact .same
        · exact .queued (fun hnil hfits => hroom ⟨hfits, hnil⟩) (not_lt.mp hdepth) rfl

lemma change_of_settleReservation {id actual report}
    (hcall : ∀ contract, call ≠ .extendQuotaContract contract)
    (h : (s.settleReservation saturating id actual).run = .ok (t, report)) : s.Change call t := by
  unfold settleReservation at h
  split at h
  · cases h
  · split at h
    · cases h
    · obtain rfl := congrArg Prod.fst (Except.ok.inj h)
      exact .settled hcall

lemma change_of_call (h : (s.call saturating call).run = .ok (t, answer)) : s.Change call t := by
  cases call with
  | requestAdmission request =>
    obtain ⟨decision, h, -⟩ := map_snd_eq_ok.mp h
    unfold requestAdmission at h
    split at h
    · split at h
      · cases h
        exact .same
      · cases h
    · split at h
      · split at h
        · cases h
          exact .same
        · cases h
      · exact change_of_admitNew (Except.ok.inj h)
  | settleReservation =>
    obtain ⟨report, h, -⟩ := map_snd_eq_ok.mp h
    exact change_of_settleReservation nofun h
  | cancelReservation =>
    obtain ⟨report, h, -⟩ := map_snd_eq_ok.mp h
    exact change_of_settleReservation nofun h
  | setLifecycle =>
    obtain rfl := congrArg Prod.fst (Except.ok.inj h)
    exact .lifecycle
  | extendQuotaContract =>
    obtain rfl := congrArg Prod.fst (Except.ok.inj h)
    exact .extended

/-- What a call does to the queue and the active reservations. -/
lemma change_of_step (h : s.step call = .ok (t, output)) : s.Change call t := by
  cases output with
  | error =>
    obtain ⟨-, rfl⟩ := commit_eq_error.mp (Except.ok.inj h)
    exact .same
  | ok => exact change_of_call (commit_eq_ok.mp (Except.ok.inj h))

def HeadBlocked (s : FanoutUsageLedger) : Prop :=
  s.lifecycle = .opened → ∀ w ∈ s.waitingQueue.head?, s.Blocked w.2

def Reopens (s : FanoutUsageLedger) : LedgerCall → Prop
  | .setLifecycle .opened => ∀ w ∈ s.waitingQueue.head?, s.Blocked w.2
  | _ => True

lemma headBlocked_drain : (s.drainAdmissibleWaiters saturating).run.1.HeadBlocked := by
  unfold drainAdmissibleWaiters
  split
  · next hclosed => exact fun hopen => absurd hopen hclosed
  · intro _ w hw
    exact blocked_of_drain rfl w (mem_of_mem_head? hw)

lemma HeadBlocked.change (hs : s.HeadBlocked) (h : s.Change call t) (hreopens : s.Reopens call) :
    t.HeadBlocked := by
  cases h with
  | same => exact hs
  | admitted hnil =>
    intro _ w hw
    cases (congrArg head? hnil).symm.trans hw
  | queued hfirst =>
    intro hopen w hw
    cases hqueue : s.waitingQueue with
    | nil =>
      obtain rfl : _ = w := by simpa [hqueue] using hw
      exact hfirst hqueue
    | cons first rest => exact hs hopen w (by simpa [hqueue] using hw)
  | @lifecycle lifecycle =>
    cases lifecycle with
    | opened => exact fun _ => hreopens
    | _ => exact nofun
  | settled => exact headBlocked_drain
  | extended => exact headBlocked_drain

variable {contract : FanoutQuotaContract} {h : List LedgerEvent}

/-- Unless a reopening finds room for its first waiter, the first waiter is always blocked. -/
lemma headBlocked_run (hrun : Run step (new contract) h s)
    (hreopens : ∀ e ∈ h, e.pre.Reopens e.input) : s.HeadBlocked := by
  induction hrun with
  | refl => exact fun _ w hw => by cases hw
  | snoc _ hstep ih =>
    have hold := ih fun e he => hreopens e (mem_append_left _ he)
    exact hold.change (change_of_step hstep) (hreopens _ (mem_append_right _ mem_cons_self))

/-- In every history that reopens a group only with a blocked head or no waiters, the head of the
queue of an open group could not be admitted. -/
theorem no_lost_wake_up (hrun : Run step (new contract) h s)
    (hreopens : ∀ e ∈ h, e.pre.Reopens e.input) (hopen : s.lifecycle = .opened)
    {w : U64 × FanoutReservationRequest} (hhead : s.waitingQueue.head? = some w) :
    (s.saturatedAxesFor saturating w.2).run ≠ [] :=
  headBlocked_run hrun hreopens hopen w hhead

lemma reopens_of_blocked (h : ∀ w ∈ s.waitingQueue.head?, s.Blocked w.2) : s.Reopens call := by
  unfold Reopens
  split
  · exact h
  · trivial

/-- A group is sealed and reopened while its head does not fit. -/
theorem no_lost_wake_up_sample :
    ∃ h s, Run step (new sampleContract) h s ∧ h.map Event.input =
        sampleCalls.take 2 ++ [.setLifecycle .sealed, .setLifecycle .opened] ∧
      ∃ w, s.waitingQueue.head? = some w ∧ (s.saturatedAxesFor saturating w.2).run ≠ [] := by
  obtain ⟨h, s, hrun, hinputs, hcheck⟩ :=
    exists_run_of_runCheck (show runCheck step (new sampleContract)
      (sampleCalls.take 2 ++ [.setLifecycle .sealed, .setLifecycle .opened])
      (fun h s => s.lifecycle = .opened ∧ s.waitingQueue.head?.isSome ∧ ∀ e ∈ h,
        ∀ w ∈ e.pre.waitingQueue.head?, (e.pre.saturatedAxesFor saturating w.2).run ≠ []) = true by
        decide +kernel)
  obtain ⟨hopen, hwaits, hblocked⟩ := of_decide_eq_true hcheck
  obtain ⟨w, hw⟩ := Option.isSome_iff_exists.mp hwaits
  exact ⟨h, s, hrun, hinputs, w, hw,
    no_lost_wake_up hrun (fun e he => reopens_of_blocked (hblocked e he)) hopen hw⟩

/-- A group sealed while its reservations are settled forgets its waiters when it is reopened. -/
theorem reopened_head_fits : ∃ h s, Run step (new sampleContract) h s ∧ s.lifecycle = .opened ∧
      ∃ w, s.waitingQueue.head? = some w ∧ (s.saturatedAxesFor saturating w.2).run = [] := by
  obtain ⟨h, s, hrun, -, hcheck⟩ :=
    exists_run_of_runCheck (show runCheck step (new sampleContract)
      (sampleCalls.take 2 ++ [.setLifecycle .sealed, .cancelReservation 1, .setLifecycle .opened])
      (fun _ s => s.lifecycle = .opened ∧
        ∃ w ∈ s.waitingQueue.head?, (s.saturatedAxesFor saturating w.2).run = []) = true by
        decide +kernel)
  exact ⟨h, s, hrun, of_decide_eq_true hcheck⟩

/-- Whoever waits behind another asks for no less on any axis. -/
def Ascends (s : FanoutUsageLedger) : Prop :=
  s.waitingQueue.Pairwise fun w w' => ∀ a, w.2.amounts a ≤ w'.2.amounts a

lemma Blocked.of_le (h : s.Blocked request) (hle : ∀ a, request.amounts a ≤ other.amounts a) :
    s.Blocked other := by
  obtain ⟨a, ha⟩ := blocked_iff.mp h
  exact blocked_iff.mpr ⟨a, ha.trans_le (hle a)⟩

variable {id : ReservationId} {r : FanoutReservationRequest}

lemma active_of_applyReservation
    (h : (s.applyReservation saturating request).run.activeReservations[id]? = some r) :
    s.activeReservations[id]? = some r ∨ request = r := by
  by_cases hid : request.reservationId = id
  · rw [← hid] at h
    exact .inr (Option.some.inj ((Std.ExtTreeMap.getElem?_insert_self).symm.trans h))
  · exact .inl ((Table.getElem?_insert_ne hid).symm.trans h)

lemma active_of_settled
    (h : (s.settled id' reservation actual).activeReservations[id]? = some r) :
    s.activeReservations[id]? = some r :=
  ((Table.getElem?_foldl_erase [(_, reservation)] s.activeReservations id).mp h).1

/-- A drained ledger has the same contract and tickets, and only waiters have become active. -/
lemma drain_spec (s : FanoutUsageLedger) :
    let t := (s.drainAdmissibleWaiters saturating).run.1
    t.contract = s.contract ∧ t.nextWaitTicketSeq = s.nextWaitTicketSeq ∧
      t.waitingQueue <+ s.waitingQueue ∧
      ∀ (id : ReservationId) (r : FanoutReservationRequest), t.activeReservations[id]? = some r →
        s.activeReservations[id]? = some r ∨ ∃ w ∈ s.waitingQueue, w.2 = r := by
  unfold drainAdmissibleWaiters
  split
  · exact ⟨rfl, rfl, .refl _, fun _ _ => .inl⟩
  · have hdrain := drain_invariant (d := ⟨s, [], []⟩)
      (P := fun d rest => d.ledger.contract = s.contract ∧
        d.ledger.nextWaitTicketSeq = s.nextWaitTicketSeq ∧
        d.remaining ++ rest <+ s.waitingQueue ∧
        ∀ (id : ReservationId) (r : FanoutReservationRequest),
          d.ledger.activeReservations[id]? = some r →
          s.activeReservations[id]? = some r ∨ ∃ w ∈ s.waitingQueue, w.2 = r) ?_ ?_
      ⟨rfl, rfl, .refl s.waitingQueue, fun _ _ => .inl⟩
    · exact ⟨hdrain.1, hdrain.2.1, by simpa using hdrain.2.2.1, hdrain.2.2.2⟩
    · rintro d w rest ⟨hcontract, hnext, hqueue, hactive⟩ -
      exact ⟨hcontract, hnext, by simpa using hqueue, hactive⟩
    · rintro d w rest ⟨hcontract, hnext, hqueue, hactive⟩ -
      refine ⟨hcontract, hnext, ((sublist_cons_self w rest).append_left _).trans hqueue, ?_⟩
      intro id r hr
      rcases active_of_applyReservation hr with hr | heq
      · exact hactive id r hr
      · exact .inr ⟨w, hqueue.subset (by simp), heq⟩

/-- One ticket was given out before another. The counter stays at its largest value once there. -/
def TicketBefore (ticket later : U64) : Prop := ticket < later ∨ later.val + 1 = 256 ^ 8

/-- The waiters stand in the order of their tickets, none of which is yet to come. -/
structure Ticketed (s : FanoutUsageLedger) : Prop where
  ordered : s.waitingQueue.Pairwise fun w w' => TicketBefore w.1 w'.1
  issued : ∀ w ∈ s.waitingQueue, w.1 ≤ s.nextWaitTicketSeq

lemma ticketBefore_saturatingAdd {ticket next : U64} (h : ticket ≤ next) :
    TicketBefore ticket (next.saturatingAdd 1) ∧ ticket ≤ next.saturatingAdd 1 := by
  have hlt := next.isLt
  simp only [TicketBefore, Word.saturatingAdd, Fin.lt_def, Fin.le_def] at h ⊢
  change (_ < min (next.val + 1) _ ∨ min (next.val + 1) _ + 1 = _) ∧ _ ≤ min (next.val + 1) _
  omega

lemma Ticketed.drain (hs : s.Ticketed) : (s.drainAdmissibleWaiters saturating).run.1.Ticketed := by
  obtain ⟨-, hnext, hqueue, -⟩ := s.drain_spec
  exact ⟨hs.ordered.sublist hqueue, fun w hw => hnext ▸ hs.issued w (hqueue.subset hw)⟩

lemma Ticketed.change (hs : s.Ticketed) (h : s.Change call t) : t.Ticketed := by
  cases h with
  | same => exact hs
  | admitted => exact ⟨hs.ordered, hs.issued⟩
  | queued _ _ hticket =>
    subst hticket
    refine ⟨pairwise_append.mpr ⟨hs.ordered, pairwise_singleton _ _, fun w hw w' hw' => ?_⟩,
      fun w hw => ?_⟩
    · rw [mem_singleton.mp hw']
      exact (ticketBefore_saturatingAdd (hs.issued w hw)).1
    · rcases mem_append.mp hw with hw | hw
      · exact (ticketBefore_saturatingAdd (hs.issued w hw)).2
      · rw [mem_singleton.mp hw]
  | lifecycle =>
    unfold setLifecycle
    split
    · exact ⟨.nil, fun w hw => absurd hw not_mem_nil⟩
    · exact ⟨hs.ordered, hs.issued⟩
  | settled | extended => exact Ticketed.drain ⟨hs.ordered, hs.issued⟩

/-- Waiters stand in the order of their tickets, all below the next one unless it has saturated. -/
lemma ticketed_run (hrun : Run step (new contract) h s) : s.Ticketed :=
  hrun.invariant ⟨.nil, fun _ hw => absurd hw not_mem_nil⟩ fun hs hstep =>
    Ticketed.change hs (change_of_step hstep)

/-- The call has made a waiter active that stood in the queue before all who still wait, and whose
ticket comes before theirs. -/
def InOrder (s t : FanoutUsageLedger) (r : FanoutReservationRequest) : Prop :=
  ∃ earlier, s.waitingQueue = earlier ++ t.waitingQueue ∧
    ∃ w ∈ earlier, w.2 = r ∧ ∀ w' ∈ t.waitingQueue, TicketBefore w.1 w'.1

lemma drain_inOrder (hs : s.Ascends) (htickets : s.Ticketed)
    (ht : (s.drainAdmissibleWaiters saturating).run.1 = t)
    (h : t.activeReservations[id]? = some r) :
    s.activeReservations[id]? = some r ∨ s.InOrder t r := by
  unfold drainAdmissibleWaiters at ht
  split at ht <;> subst ht
  · exact .inl h
  · -- Once a waiter stays, so do all behind it.
    have hdrain := drain_invariant (d := ⟨s, [], []⟩) (P := fun d rest => ∃ earlier,
      s.waitingQueue = earlier ++ (d.remaining ++ rest) ∧
      (d.remaining = [] ∨ ∀ w ∈ rest, d.ledger.Blocked w.2) ∧
      ∀ (id : ReservationId) (r : FanoutReservationRequest),
        d.ledger.activeReservations[id]? = some r →
        s.activeReservations[id]? = some r ∨ ∃ w ∈ earlier, w.2 = r) ?_ ?_
      ⟨[], rfl, .inl rfl, fun _ _ => .inl⟩
    · obtain ⟨earlier, hqueue, -, hactive⟩ := hdrain
      rw [append_nil] at hqueue
      refine (hactive id r h).imp_right ?_
      rintro ⟨w, hw, hr⟩
      refine ⟨earlier, hqueue, w, hw, hr, ?_⟩
      have hordered := htickets.ordered
      rw [hqueue, pairwise_append] at hordered
      exact hordered.2.2 w hw
    · rintro d w rest ⟨earlier, hqueue, -, hactive⟩ hblocked
      refine ⟨earlier, by simpa using hqueue, .inr fun w' hw' => hblocked.of_le ?_, hactive⟩
      have hordered : (w :: rest).Pairwise _ := hs.sublist (hqueue ▸ by simp)
      exact (pairwise_cons.mp hordered).1 w' hw'
    · rintro d w rest ⟨earlier, hqueue, hall, hactive⟩ hfits
      have hnil := hall.resolve_right fun h => hfits (h w mem_cons_self)
      refine ⟨earlier ++ [w], by simpa [hnil] using hqueue, .inl hnil, fun id r hr => ?_⟩
      rcases active_of_applyReservation hr with hr | heq
      · exact (hactive id r hr).imp_right fun ⟨x, hx, h⟩ => ⟨x, mem_append_left _ hx, h⟩
      · exact .inr ⟨w, by simp, heq⟩

/-- In every history whose calls find ascending queues, a reservation that a call makes active was
requested while nobody waited, or stood in the queue before all who still wait, with an earlier
ticket than theirs. -/
theorem admissions_in_order (hrun : Run step (new contract) h s)
    (hascends : ∀ e ∈ h, e.pre.Ascends) {e : LedgerEvent} (he : e ∈ h) :
    ∃ t, step e.pre e.input = .ok (t, e.output) ∧
      ∀ (id : ReservationId) (r : FanoutReservationRequest), t.activeReservations[id]? = some r →
        e.pre.activeReservations[id]? = some r ∨
          (e.input = .requestAdmission r ∧ t.waitingQueue = []) ∨ e.pre.InOrder t r := by
  have hs := hascends e he
  obtain ⟨h₁, h₂, rfl⟩ := append_of_mem he
  obtain ⟨hpre, t, hstep, -⟩ := hrun.split
  have htickets := ticketed_run hpre
  refine ⟨t, hstep, fun id r hr => ?_⟩
  generalize e.input = call at hstep ⊢
  cases change_of_step hstep with
  | same => exact .inl hr
  | admitted hnil =>
    exact (active_of_applyReservation hr).imp_right fun heq => .inl ⟨by rw [heq], hnil⟩
  | queued => exact .inl hr
  | lifecycle =>
    unfold setLifecycle at hr
    split at hr <;> exact .inl hr
  | @settled _ id' reservation actual =>
    exact (drain_inOrder (s := e.pre.settled id' reservation actual) hs
      ⟨htickets.ordered, htickets.issued⟩ rfl hr).imp active_of_settled .inr
  | @extended contract =>
    exact (drain_inOrder (s := { e.pre with contract }) hs
      ⟨htickets.ordered, htickets.issued⟩ rfl hr).imp_right .inr

instance : Decidable s.Ascends := inferInstanceAs (Decidable (Pairwise _ _))

/-- Of two waiters with the tickets 1 and 2 the first is promoted and the second stays. -/
theorem admissions_in_order_sample :
    ∃ h s, Run step (new sampleContract) h s ∧ h.map Event.input =
        [.requestAdmission ⟨1, 1, 0, uniform 4⟩, .requestAdmission ⟨2, 2, 0, uniform 2⟩,
          .requestAdmission ⟨3, 3, 0, uniform 4⟩, .cancelReservation 1] ∧
      (∃ e ∈ h, e.pre.waitingQueue.map (fun w => (w.1, w.2.reservationId)) = [(1, 2), (2, 3)]) ∧
      s.activeReservations[(2 : ReservationId)]? ≠ none ∧
      s.waitingQueue.map (fun w => (w.1, w.2.reservationId)) = [(2, 3)] ∧
      ∀ e ∈ h, ∃ t, step e.pre e.input = .ok (t, e.output) ∧
        ∀ (id : ReservationId) (r : FanoutReservationRequest), t.activeReservations[id]? = some r →
          e.pre.activeReservations[id]? = some r ∨
            (e.input = .requestAdmission r ∧ t.waitingQueue = []) ∨ e.pre.InOrder t r := by
  obtain ⟨h, s, hrun, hinputs, hcheck⟩ :=
    exists_run_of_runCheck (show runCheck step (new sampleContract)
      [.requestAdmission ⟨1, 1, 0, uniform 4⟩, .requestAdmission ⟨2, 2, 0, uniform 2⟩,
        .requestAdmission ⟨3, 3, 0, uniform 4⟩, .cancelReservation 1] (fun h s =>
      (∃ e ∈ h, e.pre.waitingQueue.map (fun w => (w.1, w.2.reservationId)) = [(1, 2), (2, 3)]) ∧
      s.activeReservations[(2 : ReservationId)]? ≠ none ∧
      s.waitingQueue.map (fun w => (w.1, w.2.reservationId)) = [(2, 3)] ∧
      ∀ e ∈ h, e.pre.Ascends) = true by decide +kernel)
  obtain ⟨htwo, hactive, hwaits, hascends⟩ := of_decide_eq_true hcheck
  exact ⟨h, s, hrun, hinputs, htwo, hactive, hwaits, fun e => admissions_in_order hrun hascends⟩

/-- A small request overtakes the large one that waits before it. -/
theorem small_overtakes_large : ∃ h s, Run step (new sampleContract) h s ∧
      s.waitingQueue.map (·.2.reservationId) = [2] ∧
      s.activeReservations[(3 : ReservationId)]? ≠ none ∧
      ∃ e ∈ h, e.pre.waitingQueue.map (·.2.reservationId) = [2, 3] := by
  obtain ⟨h, s, hrun, -, hcheck⟩ :=
    exists_run_of_runCheck (show runCheck step (new sampleContract)
      [.requestAdmission ⟨1, 1, 0, uniform 2⟩, .requestAdmission ⟨4, 4, 0, uniform 3⟩,
        .requestAdmission ⟨2, 2, 0, uniform 4⟩, .requestAdmission ⟨3, 3, 0, uniform 2⟩,
        .cancelReservation 1] (fun h s =>
      s.waitingQueue.map (·.2.reservationId) = [2] ∧
      s.activeReservations[(3 : ReservationId)]? ≠ none ∧
      ∃ e ∈ h, e.pre.waitingQueue.map (·.2.reservationId) = [2, 3]) = true by decide +kernel)
  exact ⟨h, s, hrun, of_decide_eq_true hcheck⟩

/-! ## The contract in force -/

/-- Every waiter keeps within the depth of the contract. -/
def WithinDepth (s : FanoutUsageLedger) : Prop :=
  ∀ w ∈ s.waitingQueue, w.2.requestedDepth ≤ s.contract.maxGroupDepth

/-- A new contract covers the usage and the depth of every waiter. -/
def Covers (s : FanoutUsageLedger) : LedgerCall → Prop
  | .extendQuotaContract contract =>
    (∀ a, (s.committed a).val + (s.reserved a).val ≤ (contract.maximum a).val) ∧
      WithinDepth { s with contract }
  | _ => True

/-- A reservation that a call makes active keeps within the depth of the contract. -/
def DeepEnough (s t : FanoutUsageLedger) : Prop :=
  ∀ (id : ReservationId) (r : FanoutReservationRequest), t.activeReservations[id]? = some r →
    s.activeReservations[id]? = some r ∨ r.requestedDepth ≤ t.contract.maxGroupDepth

lemma WithinDepth.drain (hs : s.WithinDepth) :
    (s.drainAdmissibleWaiters saturating).run.1.WithinDepth ∧
      s.DeepEnough (s.drainAdmissibleWaiters saturating).run.1 := by
  obtain ⟨hcontract, -, hqueue, hactive⟩ := s.drain_spec
  refine ⟨fun w hw => hcontract ▸ hs w (hqueue.subset hw), fun id r hr => ?_⟩
  refine (hactive id r hr).imp_right ?_
  rintro ⟨w, hw, rfl⟩
  exact hcontract ▸ hs w hw

lemma WithinDepth.change (hs : s.WithinDepth) (h : s.Change call t) (hcovers : s.Covers call) :
    t.WithinDepth ∧ s.DeepEnough t := by
  cases h with
  | same => exact ⟨hs, fun _ _ => .inl⟩
  | admitted _ hdepth =>
    refine ⟨hs, fun id r hr => (active_of_applyReservation hr).imp_right ?_⟩
    rintro rfl
    exact hdepth
  | queued _ hdepth =>
    refine ⟨fun w hw => ?_, fun _ _ => .inl⟩
    rcases mem_append.mp hw with hw | hw
    · exact hs w hw
    · rw [mem_singleton.mp hw]
      exact hdepth
  | lifecycle =>
    unfold setLifecycle
    split
    · exact ⟨fun w hw => absurd hw not_mem_nil, fun _ _ => .inl⟩
    · exact ⟨hs, fun _ _ => .inl⟩
  | @settled call id reservation actual =>
    obtain ⟨hdepth, hactive⟩ := WithinDepth.drain (s := s.settled id reservation actual) hs
    exact ⟨hdepth, fun id r hr => (hactive id r hr).imp_left active_of_settled⟩
  | extended => exact hcovers.2.drain

lemma Sound.step (hs : s.Sound) (hcovers : s.Covers call)
    {output : Except LedgerError LedgerAnswer} (hstep : s.step call = .ok (t, output)) :
    t.Sound := by
  cases output with
  | error =>
    obtain ⟨-, rfl⟩ := commit_eq_error.mp (Except.ok.inj hstep)
    exact hs
  | ok answer =>
    have hcall := commit_eq_ok.mp (Except.ok.inj hstep)
    cases call with
    | extendQuotaContract contract =>
      have hextended : FanoutUsageLedger.Sound { s with contract } :=
        ⟨hs.reserved, hcovers.1, hs.nodup, hs.fresh⟩
      obtain rfl : _ = t := congrArg Prod.fst (Except.ok.inj hcall)
      exact (settlementReport_spec hextended).2.1
    | _ => exact ((call_spec hs (by trivial)).2 t answer hcall).1

/-- Contracts that cover the ledger keep it sound and every waiter within the depth. -/
lemma sound_withinDepth_run (hrun : Run step (new contract) h s)
    (hcovers : ∀ e ∈ h, e.pre.Covers e.input) : s.Sound ∧ s.WithinDepth := by
  induction hrun with
  | refl => exact ⟨sound_new contract, fun w hw => absurd hw not_mem_nil⟩
  | snoc _ hstep ih =>
    obtain ⟨hsound, hdepth⟩ := ih fun e he => hcovers e (mem_append_left _ he)
    have hlast := hcovers _ (mem_append_right _ mem_cons_self)
    exact ⟨hsound.step hlast hstep, (hdepth.change (change_of_step hstep) hlast).1⟩

/-- In every history whose new contracts cover the usage and the waiters, a reservation that becomes
active keeps within the depth of the contract in force, and the usage with it within the maxima. -/
theorem admitted_within_contract (hrun : Run step (new contract) h s)
    (hcovers : ∀ e ∈ h, e.pre.Covers e.input) (hcall : s.Covers call)
    {output : Except LedgerError LedgerAnswer} (hstep : s.step call = .ok (t, output)) :
    s.DeepEnough t ∧
      ∀ a, (t.committed a).val + (t.reserved a).val ≤ (t.contract.maximum a).val := by
  obtain ⟨hsound, hdepth⟩ := sound_withinDepth_run hrun hcovers
  exact ⟨(hdepth.change (change_of_step hstep) hcall).2, (hsound.step hcall hstep).within⟩

def widerContract : FanoutQuotaContract := ⟨1, uniform 9, 4, 0⟩

/-- A waiter is promoted under a wider contract. -/
theorem admitted_within_contract_promoted :
    ∃ h s t output, Run step (new sampleContract) h s ∧
      h.map Event.input =
        [.requestAdmission ⟨1, 1, 0, uniform 4⟩, .requestAdmission ⟨2, 2, 1, uniform 3⟩] ∧
      s.step (.extendQuotaContract widerContract) = .ok (t, output) ∧
      s.activeReservations[(2 : ReservationId)]? = none ∧
      t.activeReservations[(2 : ReservationId)]? ≠ none ∧ s.DeepEnough t ∧
      ∀ a, (t.committed a).val + (t.reserved a).val ≤ (t.contract.maximum a).val := by
  obtain ⟨h, s, hrun, hinputs, hcheck⟩ :=
    exists_run_of_runCheck (show runCheck step (new sampleContract)
      [.requestAdmission ⟨1, 1, 0, uniform 4⟩, .requestAdmission ⟨2, 2, 1, uniform 3⟩] (fun _ s =>
      s.activeReservations[(2 : ReservationId)]? = none ∧
      (commit s (s.call saturating (.extendQuotaContract widerContract)).run
        ).1.activeReservations[(2 : ReservationId)]? ≠ none ∧
      (∀ a, (s.committed a).val + (s.reserved a).val ≤ (widerContract.maximum a).val) ∧
      ∀ w ∈ s.waitingQueue, w.2.requestedDepth ≤ widerContract.maxGroupDepth) = true by
        decide +kernel)
  obtain ⟨hwaits, hactive, hcovers⟩ := of_decide_eq_true hcheck
  obtain ⟨t, output, hstep⟩ : ∃ t output, s.step (.extendQuotaContract widerContract) =
    .ok (t, output) := ⟨_, _, rfl⟩
  rw [congrArg Prod.fst (Except.ok.inj hstep)] at hactive
  have hrequests : ∀ e ∈ h, e.pre.Covers e.input := by
    intro e he
    have hmem := hinputs ▸ mem_map_of_mem (f := Event.input) he
    simp only [mem_cons, not_mem_nil, or_false] at hmem
    rcases hmem with heq | heq <;> rw [heq] <;> trivial
  have hcall : s.Covers (.extendQuotaContract widerContract) := hcovers
  exact ⟨h, s, t, output, hrun, hinputs, hstep, hwaits, hactive,
    admitted_within_contract hrun hrequests hcall hstep⟩

/-- A waiter is promoted under a contract whose depth it exceeds. -/
theorem promoted_below_depth :
    ∃ h s, Run step (new sampleContract) h s ∧
      ∃ r, s.activeReservations[(2 : ReservationId)]? = some r ∧
        s.contract.maxGroupDepth < r.requestedDepth := by
  obtain ⟨h, s, hrun, -, hcheck⟩ :=
    exists_run_of_runCheck (show runCheck step (new sampleContract)
      [.requestAdmission ⟨1, 1, 0, uniform 4⟩, .requestAdmission ⟨2, 2, 1, uniform 3⟩,
        .extendQuotaContract ⟨0, uniform 9, 4, 0⟩]
      (fun _ s => ∃ r ∈ s.activeReservations[(2 : ReservationId)]?,
        s.contract.maxGroupDepth < r.requestedDepth) = true by decide +kernel)
  exact ⟨h, s, hrun, of_decide_eq_true hcheck⟩

end FanoutUsageLedger

end Nlos.Fanout
