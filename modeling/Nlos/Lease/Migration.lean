import Nlos.Lease.QuotaConservation

/-!
# Migrations of quota

A migration closes its source and grants a target of at most what the source returned.
-/

namespace Nlos.Lease

open Lib List

namespace QuotaLeaseGrantor

variable {g t : QuotaLeaseGrantor} {presented : CellFence} {source target : QuotaLeaseId}
  {ack : FenceBarrierAck} {face total : ℕ} {expires : Option LeaseInstant}
  {lease : QuotaLeaseGrant} {call : QuotaCall} {answer : QuotaAnswer}

lemma ackClose_stored (h : g.ackClose presented source = .ok (t, lease)) :
    t.leases[source]? = some lease := by
  simp only [ackClose, bind_eq_ok, admitted_eq_ok] at h
  obtain ⟨existing, ⟨-, hexisting⟩, h⟩ := h
  split at h
  · simp only [refundRemaining, bind_eq_ok, pure_eq_ok, Prod.mk.injEq] at h
    obtain ⟨-, -, -, -, rfl, rfl⟩ := h
    exact Std.ExtTreeMap.getElem?_insert_self
  · obtain ⟨rfl, rfl⟩ := Prod.mk.inj (pure_eq_ok.mp h)
    exact hexisting
  · cases h

lemma closeSource_stored (h : g.closeSource presented source ack = .ok (t, lease)) :
    t.leases[source]? = some lease := by
  simp only [closeSource, query, bind_eq_ok, within_eq_ok, expect_eq_ok] at h
  obtain ⟨-, -, existing, hexisting, h⟩ := h
  split at h
  · cases h
  · next hclosing =>
    simp only [bind_eq_ok, hclosing, if_true, within_eq_ok] at h
    obtain ⟨-, -, h⟩ := h
    exact ackClose_stored h
  · next hclosed =>
    simp only [bind_eq_ok, hclosed, reduceCtorEq, if_false, pure_eq_ok, Prod.mk.injEq] at h
    obtain ⟨-, -, rfl, rfl⟩ := h
    exact hexisting
  · cases h

lemma grantForHolder_stored
    (h : g.grantForHolder presented target holderCell holderBootGeneration face expires =
      .ok (t, lease)) : t.leases[target]? = some lease := by
  unfold grantForHolder at h
  split at h
  · next existing hexisting =>
    split at h
    · obtain ⟨rfl, rfl⟩ := Prod.mk.inj (pure_eq_ok.mp h)
      exact hexisting
    · simp only [bind_eq_ok] at h
      obtain ⟨-, -, -, -, -, -, -, -, h⟩ := h
      cases h
  · simp only [bind_eq_ok] at h
    obtain ⟨-, -, -, -, h⟩ := h
    obtain ⟨rfl, rfl⟩ := Prod.mk.inj (pure_eq_ok.mp h)
    exact Std.ExtTreeMap.getElem?_insert_self

lemma migrateLease_eq_ok
    (h : g.step (.migrateLease presented source ack target face expires) =
      .ok (t, .migrated (.ok outcome))) :
    ∃ closed lease, g.closeSource presented source ack = .ok (closed, lease) ∧
      closed.grantTarget presented target face expires lease = .ok (t, outcome) := by
  obtain ⟨⟨u, r⟩, hmigrate, heq⟩ := map_eq_ok.mp h
  obtain ⟨rfl, hr⟩ := Prod.mk.inj heq
  obtain rfl := QuotaAnswer.migrated.inj hr
  unfold migrateLease at hmigrate
  cases hclose : g.closeSource presented source ack with
  | error fault =>
    rw [hclose] at hmigrate
    cases fault <;> cases hmigrate
  | ok closed =>
    rw [hclose] at hmigrate
    rcases settle_eq_ok.mp hmigrate with ⟨outcome, hgrant, hr⟩ | ⟨e, -, -, hr⟩
    · obtain rfl := Except.ok.inj hr
      exact ⟨closed.1, closed.2, rfl, hgrant⟩
    · cases hr

/-! ## Several migrations of one source -/

/-- The face value of the target that a migration of the source has created. -/
def movedBy (source : QuotaLeaseId) (e : Event QuotaLeaseGrantor QuotaCall QuotaAnswer) :
    Option ℕ :=
  match e.input, e.output with
  | .migrateLease _ sourceLeaseId _ targetLeaseId targetFaceValue _, .migrated (.ok _) =>
    if sourceLeaseId = source ∧ e.pre.leases[targetLeaseId]? = none then some targetFaceValue
    else none
  | _, _ => none

variable {h : List (Event QuotaLeaseGrantor QuotaCall QuotaAnswer)} {authority : CellAuthority}

/-- The face values of the targets that migrations of the source have created. -/
def moved (source : QuotaLeaseId) (h : List (Event QuotaLeaseGrantor QuotaCall QuotaAnswer)) :
    List ℕ :=
  h.filterMap (movedBy source)

/-- What a lease has spent and returned never falls. -/
lemma rises_of_step (hg : g.books.Conserves total) (hstep : g.step call = .ok (t, answer)) :
    g.books.Rises t.books :=
  QuotaMoves.rises (steps_of_step (QuotaBooks.Conserves.keyed hg) hstep).moves hg

lemma of_movedBy (hmoved : movedBy source ⟨g, call, answer⟩ = some face) :
    ∃ presented ack target expires outcome,
      call = .migrateLease presented source ack target face expires ∧
      answer = .migrated (.ok outcome) ∧ g.leases[target]? = none := by
  unfold movedBy at hmoved
  split at hmoved
  · next presented id ack target face' expires outcome hcall hanswer =>
    split at hmoved
    · next hid =>
      obtain rfl := Option.some.inj hmoved
      obtain ⟨rfl, hnew⟩ := hid
      exact ⟨presented, ack, target, expires, outcome, hcall, hanswer, hnew⟩
    · cases hmoved
  · cases hmoved

/-- After a migration its target is there, and the source has returned the target's face value. -/
lemma migrated_spec (hg : g.books.Conserves total)
    (hstep : g.step (.migrateLease presented source ack target face expires) =
      .ok (t, .migrated (.ok outcome))) : t.leases[target]? ≠ none ∧
      ∃ lease, t.leases[source]? = some lease ∧ face ≤ lease.returned := by
  obtain ⟨closed, lease, hclose, hgrant⟩ := migrateLease_eq_ok hstep
  have hclosed := (closeSource_booked hclose).moves.conserves hg
  have hrises := QuotaMoves.rises (grantTarget_booked hgrant).moves hclosed
  obtain ⟨w, hw, -, hreturned⟩ := hrises _ lease (closeSource_stored hclose)
  simp only [grantTarget, bind_eq_ok, refuse_eq_ok, not_lt, within_eq_ok] at hgrant
  obtain ⟨-, hface, granted, hgranted, hout⟩ := hgrant
  obtain ⟨rfl, -⟩ := Prod.mk.inj (pure_eq_ok.mp hout)
  refine ⟨?_, w, hw, hface.trans hreturned⟩
  simp [grantForHolder_stored hgranted]

/-- What is available and what the leases hold add up to the pool in every run. -/
lemma conserves_of_run (hrun : Run step (.new authority total) h g) :
    g.books.Conserves total := by
  refine hrun.invariant (P := fun g => g.books.Conserves total) ?_ fun hg hstep =>
    (steps_of_step (QuotaBooks.Conserves.keyed hg) hstep).moves.conserves hg
  exact ⟨fun id lease hlease => by simp [books, QuotaLeaseGrantor.new] at hlease, Escrow.empty⟩

/-- Every migration of the source names the target. -/
def OneTarget (source target : QuotaLeaseId) : QuotaCall → Prop
  | .migrateLease _ sourceLeaseId _ targetLeaseId _ _ =>
    sourceLeaseId = source → targetLeaseId = target
  | _ => True

/-- Once something was moved the target is there, so that nothing more is moved. -/
lemma moved_bound (hrun : Run step (.new authority total) h g)
    (hone : ∀ e ∈ h, OneTarget source target e.input) : moved source h = [] ∨
      g.leases[target]? ≠ none ∧
        ∃ lease, g.leases[source]? = some lease ∧ (moved source h).sum ≤ lease.returned := by
  induction hrun with
  | refl => exact .inl rfl
  | @snoc h s t call answer hrun hstep ih =>
    have hs := conserves_of_run hrun
    have hold := ih fun e he => hone e (mem_append_left _ he)
    rw [moved, filterMap_append]
    cases hmoved : movedBy source ⟨s, call, answer⟩ with
    | none =>
      simp only [filterMap_cons_none hmoved, filterMap_nil, append_nil]
      refine hold.imp id ?_
      rintro ⟨hthere, old, hlease, hsum⟩
      obtain ⟨held, hheld⟩ := Option.ne_none_iff_exists'.mp hthere
      obtain ⟨w, hw, -⟩ := rises_of_step hs hstep target held hheld
      obtain ⟨w', hw', -, hreturned⟩ := rises_of_step hs hstep source old hlease
      exact ⟨Option.ne_none_iff_exists'.mpr ⟨w, hw⟩, w', hw', hsum.trans hreturned⟩
    | some face =>
      obtain ⟨presented, ack, named, expires, outcome, rfl, rfl, hnew⟩ := of_movedBy hmoved
      obtain rfl : named = target := hone _ (mem_append_right _ mem_cons_self) rfl
      have hfirst := hold.resolve_right fun hthere => hthere.1 hnew
      rw [moved] at hfirst
      exact .inr (by simpa [hfirst, filterMap_cons_some hmoved] using migrated_spec hs hstep)

/-- In every run whose migrations of the source all name one target, the source has returned what
its migrations moved. -/
theorem moved_within_returned (hrun : Run step (.new authority total) h g)
    (hone : ∀ e ∈ h, OneTarget source target e.input) (hlease : g.leases[source]? = some lease) :
    (moved source h).sum ≤ lease.returned := by
  rcases moved_bound hrun hone with hnone | ⟨-, w, hw, hsum⟩
  · simp [hnone]
  · rwa [Option.some.inj (hlease.symm.trans hw)]

end QuotaLeaseGrantor

namespace QuotaSample

/-- A lease of ten that is about to be closed. -/
def closing : List QuotaCall :=
  [.grant authority.fence 1 10 none, .activate authority.fence 1, .beginClose authority.fence 1]

def migrating (target : QuotaLeaseId) (faceValue : ℕ) : QuotaCall :=
  .migrateLease authority.fence 1 (.ofFields 1 ⟨authority.identity⟩ 1 1 9 0) target faceValue none

end QuotaSample

open QuotaSample QuotaLeaseGrantor

/-- The only target is asked for twice, the second time in vain. -/
theorem moved_within_returned_once :
    ∃ h g, Run step (.new authority 20) h g ∧
      h.map Event.input = closing ++ [migrating 2 10, migrating 2 10, migrating 2 5] ∧
      ∃ lease, g.leases[(1 : QuotaLeaseId)]? = some lease ∧ (moved 1 h).sum = 10 ∧
        (moved 1 h).sum ≤ lease.returned := by
  have hruns : runCheck step (.new authority 20)
      (closing ++ [migrating 2 10, migrating 2 10, migrating 2 5]) (fun h g =>
      (moved 1 h).sum = 10 ∧ (g.leases[(1 : QuotaLeaseId)]?).isSome) = true := by decide +kernel
  obtain ⟨h, g, hrun, hinputs, hcheck⟩ := exists_run_of_runCheck hruns
  obtain ⟨hsum, hsome⟩ := of_decide_eq_true hcheck
  obtain ⟨lease, hlease⟩ := Option.isSome_iff_exists.mp hsome
  have hcalls : ∀ call ∈ closing ++ [migrating 2 10, migrating 2 10, migrating 2 5],
      OneTarget 1 2 call := by simp [closing, migrating, OneTarget]
  have hone : ∀ e ∈ h, OneTarget 1 2 e.input := fun e he =>
    hcalls _ (hinputs ▸ mem_map_of_mem he)
  exact ⟨h, g, hrun, hinputs, lease, hlease, hsum, moved_within_returned hrun hone hlease⟩

/-- A closed source of ten is migrated twice, each time in full. -/
theorem moved_twice :
    ∃ h g, Run step (.new authority 20) h g ∧ ∃ lease, g.leases[(1 : QuotaLeaseId)]? = some lease ∧
      lease.returned < (moved 1 h).sum := by
  have hruns : runCheck step (.new authority 20) (closing ++ [migrating 2 10, migrating 3 10])
      (fun h g => ∃ lease ∈ g.leases[(1 : QuotaLeaseId)]?, lease.returned < (moved 1 h).sum) =
        true := by decide +kernel
  obtain ⟨h, g, hrun, -, hcheck⟩ := exists_run_of_runCheck hruns
  exact ⟨h, g, hrun, of_decide_eq_true hcheck⟩

end Nlos.Lease
