import Nlos.Resource.Steps

/-!
# Conservation of resource credit

What an account may still spend, what its open reservations hold and what its settled ones used
add up to the credit it was opened with. The usage reports of a reservation grow and stay below
what it is settled at.
-/

namespace Nlos.Resource

open Lib Capability List ReservationRow

namespace ReservationRow

def isFinalized (row : ReservationRow) : Bool :=
  row.activated && row.quarantineReceiptId.isNone && row.finalizeReceiptId.isSome

lemma isFinalized_iff {row : ReservationRow} :
    row.isFinalized = true ↔ row.state = .ok .finalized := by
  rw [state_eq_finalized]
  simp [isFinalized, and_assoc]

/-- A row that can be read and reports no more than its bound. -/
structure WellFormed (row : ReservationRow) : Prop where
  unsettled : row.activated = false → row.finalizeReceiptId = none
  bounded : row.usageHighWater ≤ row.upperBound

/-- What a reservation keeps while it lives: its payer and its bound; usage only grows, and nothing
changes after settlement. -/
structure Continues (row row' : ReservationRow) : Prop where
  reservationId : row'.reservationId = row.reservationId
  accountId : row'.accountId = row.accountId
  upperBound : row'.upperBound = row.upperBound
  usageHighWaterSeq : row.usageHighWaterSeq ≤ row'.usageHighWaterSeq
  usageHighWater : row.usageHighWater ≤ row'.usageHighWater
  finalized : row.isFinalized = true → row' = row

variable {row row' : ReservationRow}

lemma Continues.refl (row : ReservationRow) : row.Continues row :=
  ⟨rfl, rfl, rfl, le_rfl, le_rfl, fun _ => rfl⟩

lemma Continues.trans {row'' : ReservationRow} (h : row.Continues row')
    (h' : row'.Continues row'') : row.Continues row'' where
  reservationId := h'.reservationId.trans h.reservationId
  accountId := h'.accountId.trans h.accountId
  upperBound := h'.upperBound.trans h.upperBound
  usageHighWaterSeq := h.usageHighWaterSeq.trans h'.usageHighWaterSeq
  usageHighWater := h.usageHighWater.trans h'.usageHighWater
  finalized hfinal := by
    obtain rfl := h.finalized hfinal
    exact h'.finalized hfinal

lemma isFinalized_of_active (h : row.state = .ok .active) : row.isFinalized = false := by
  obtain ⟨-, -, hopen⟩ := state_eq_active.mp h
  simp [isFinalized, hopen]

lemma isFinalized_of_settleable
    (h : row.state = .ok .active ∨ row.state = .ok .quarantined) : row.isFinalized = false := by
  rcases h with h | h
  · exact isFinalized_of_active h
  · obtain ⟨-, -, hopen⟩ := state_eq_quarantined.mp h
    simp [isFinalized, hopen]

lemma isFinalized_settled (h : row.state = .ok .active ∨ row.state = .ok .quarantined) :
    (row.settled receipt).isFinalized = true := by
  have hactivated : row.activated = true := by
    rcases h with h | h
    · exact (state_eq_active.mp h).1
    · exact (state_eq_quarantined.mp h).1
  simp [isFinalized, settled, lifted, hactivated]

lemma continues_of_advances (h : row.Advances row') : row.Continues row' := by
  cases h with
  | activate receiptId state =>
    refine ⟨rfl, rfl, rfl, le_rfl, le_rfl, fun hfinal => ?_⟩
    simp [isFinalized, state_eq_reserved.mp state] at hfinal
  | quarantine receiptId atMs state =>
    refine ⟨rfl, rfl, rfl, le_rfl, le_rfl, fun hfinal => ?_⟩
    simp [isFinalized_of_active state] at hfinal

/-- Neither activation nor a freeze settles a reservation. -/
lemma isFinalized_of_advances (hrow : row.WellFormed) (h : row.Advances row') :
    row.isFinalized = false ∧ row'.isFinalized = false := by
  cases h with
  | activate receiptId state =>
    have hopen := hrow.unsettled (state_eq_reserved.mp state)
    exact ⟨by simp [isFinalized, hopen], by simp [isFinalized, hopen]⟩
  | quarantine receiptId atMs state =>
    exact ⟨isFinalized_of_active state, by simp [isFinalized]⟩

lemma wellFormed_of_advances (hrow : row.WellFormed) (h : row.Advances row') :
    row'.WellFormed := by
  cases h with
  | activate =>
    exact ⟨fun hinactive => absurd hinactive (by simp), hrow.bounded⟩
  | quarantine => exact ⟨hrow.unsettled, hrow.bounded⟩

end ReservationRow

namespace ResourceAuthority

variable {s t : ResourceAuthority}

lemma exists_continuing_of_replaceRow
    (hrows : Keyed (fun r : ReservationRow => r.reservationId) rows)
    (hrow : row ∈ rows) (hcontinues : row.Continues row') (hr : r ∈ rows) :
    ∃ r' ∈ replaceRow (fun r : ReservationRow => r.reservationId) row' rows, r.Continues r' := by
  by_cases hid : r.reservationId = row'.reservationId
  · obtain rfl := hrows.eq hr hrow (hid.trans hcontinues.reservationId)
    exact ⟨row', mem_replaceRow_self hr hcontinues.reservationId, hcontinues⟩
  · exact ⟨r, mem_replaceRow_of_ne hr hid, .refl r⟩

lemma continues_reporting
    (h : s.Records row receipt t) : row.Continues (row.reporting receipt) := by
  refine ⟨rfl, rfl, rfl, h.later.le, h.monotone, fun hfinal => ?_⟩
  simp [isFinalized_of_active h.state] at hfinal

lemma continues_settled {row receipt account} (h : s.Settles row receipt account t) :
    row.Continues (row.settled receipt) := by
  refine ⟨rfl, rfl, rfl, le_rfl, le_rfl, fun hfinal => ?_⟩
  simp [isFinalized_of_settleable h.state] at hfinal

/-- No change loses a reservation. -/
lemma exists_continuing (hs : s.Distinct) (h : s.Change t)
    (hr : r ∈ s.reservations) : ∃ r' ∈ t.reservations, r.Continues r' := by
  cases h with
  | quiet h => exact ⟨r, h.reservations ▸ hr, .refl r⟩
  | openAccount _ h => exact ⟨r, h.reservations ▸ hr, .refl r⟩
  | hold _ _ h =>
    refine ⟨r, ?_, .refl r⟩
    rw [h.reservations]
    exact mem_append_left _ hr
  | advance row row' h =>
    rw [h.reservations]
    exact exists_continuing_of_replaceRow hs.reservations h.stored
      (continues_of_advances h.advances) hr
  | report row receipt h =>
    rw [h.reservations]
    exact exists_continuing_of_replaceRow hs.reservations h.stored (continues_reporting h) hr
  | settle row receipt account h =>
    rw [h.reservations]
    exact exists_continuing_of_replaceRow hs.reservations h.stored (continues_settled h) hr

lemma wellFormed_of_change (hs : ∀ r ∈ s.reservations, r.WellFormed) (h : s.Change t) :
    ∀ r ∈ t.reservations, r.WellFormed := by
  intro r hr
  cases h with
  | quiet h => exact hs r (h.reservations ▸ hr)
  | openAccount _ h => exact hs r (h.reservations ▸ hr)
  | hold row _ h =>
    rw [h.reservations, mem_append, mem_singleton] at hr
    rcases hr with hr | rfl
    · exact hs r hr
    · exact ⟨fun _ => h.isNew.finalizeReceiptId, h.isNew.usageHighWater ▸ Fin.zero_le _⟩
  | advance row row' h =>
    rw [h.reservations] at hr
    rcases eq_or_of_mem_replaceRow hr with rfl | ⟨hold, -⟩
    · exact wellFormed_of_advances (hs row h.stored) h.advances
    · exact hs r hold
  | report row receipt h =>
    rw [h.reservations] at hr
    rcases eq_or_of_mem_replaceRow hr with rfl | ⟨hold, -⟩
    · exact ⟨(hs row h.stored).unsettled, h.bounded⟩
    · exact hs r hold
  | settle row receipt account h =>
    rw [h.reservations] at hr
    rcases eq_or_of_mem_replaceRow hr with rfl | ⟨hold, -⟩
    · refine ⟨fun hinactive => ?_, (hs row h.stored).bounded⟩
      have hfinal : (row.settled receipt).isFinalized = true :=
        isFinalized_settled h.state
      simp [isFinalized, hinactive] at hfinal
    · exact hs r hold

/-- The usage reports of one reservation, in the order they were recorded. -/
def consumptionsOf (s : ResourceAuthority) (reservationId : ReservationId) :
    List ConsumptionReceipt :=
  s.consumptionReceipts.filter fun c => c.reservationId = reservationId

structure Reports (s : ResourceAuthority) : Prop where
  stored : ∀ c ∈ s.consumptionReceipts, ∃ r ∈ s.reservations,
    r.reservationId = c.reservationId ∧ c.sequence ≤ r.usageHighWaterSeq ∧
      c.cumulativeUsage ≤ r.usageHighWater
  ordered : s.consumptionReceipts.Pairwise fun c d => c.reservationId = d.reservationId →
    c.sequence < d.sequence ∧ c.cumulativeUsage ≤ d.cumulativeUsage

lemma reports_of_change (hs : s.Distinct) (hreports : s.Reports) (h : s.Change t) :
    t.Reports := by
  -- A stored report stays below its reservation, whose high water only rises.
  have hkept : ∀ c ∈ s.consumptionReceipts, ∃ r ∈ t.reservations,
      r.reservationId = c.reservationId ∧ c.sequence ≤ r.usageHighWaterSeq ∧
        c.cumulativeUsage ≤ r.usageHighWater := by
    intro c hc
    obtain ⟨r, hr, hid, hseq, husage⟩ := hreports.stored c hc
    obtain ⟨r', hr', hcontinues⟩ := exists_continuing hs h hr
    exact ⟨r', hr', hcontinues.reservationId.trans hid,
      hseq.trans hcontinues.usageHighWaterSeq, husage.trans hcontinues.usageHighWater⟩
  cases h with
  | quiet h => exact ⟨h.consumptions ▸ hkept, h.consumptions ▸ hreports.ordered⟩
  | openAccount _ h => exact ⟨h.consumptions ▸ hkept, h.consumptions ▸ hreports.ordered⟩
  | hold _ _ h => exact ⟨h.consumptions ▸ hkept, h.consumptions ▸ hreports.ordered⟩
  | advance _ _ h => exact ⟨h.consumptions ▸ hkept, h.consumptions ▸ hreports.ordered⟩
  | settle _ _ _ h => exact ⟨h.consumptions ▸ hkept, h.consumptions ▸ hreports.ordered⟩
  | report row receipt h =>
    refine ⟨?_, ?_⟩
    · intro c hc
      rw [h.consumptions, mem_append, mem_singleton] at hc
      rcases hc with hc | rfl
      · exact hkept c hc
      · refine ⟨row.reporting c, ?_, h.binds.symm, le_rfl, le_rfl⟩
        rw [h.reservations]
        exact mem_replaceRow_self h.stored rfl
    · rw [h.consumptions, pairwise_append]
      refine ⟨hreports.ordered, pairwise_singleton _ _, ?_⟩
      intro c hc d hd hsame
      obtain rfl := mem_singleton.mp hd
      obtain ⟨r, hr, hid, hseq, husage⟩ := hreports.stored c hc
      obtain rfl := hs.reservations.eq hr h.stored (hid.trans (hsame.trans h.binds))
      exact ⟨hseq.trans_lt h.later, husage.trans h.monotone⟩

structure Settlements (s : ResourceAuthority) : Prop where
  receipts : Keyed (fun f : FinalizationReceipt => f.reservationId) s.finalizeReceipts
  settled : ∀ f ∈ s.finalizeReceipts, ∃ r ∈ s.reservations,
    r.reservationId = f.reservationId ∧ r.isFinalized = true ∧
      r.usageHighWater ≤ f.finalUsage ∧ f.finalUsage ≤ r.upperBound
  receipted : ∀ r ∈ s.reservations, r.isFinalized = true →
    ∃ f ∈ s.finalizeReceipts, f.reservationId = r.reservationId

lemma settled_of_change (hs : s.Distinct) (hsettlements : s.Settlements) (h : s.Change t) :
    ∀ f ∈ s.finalizeReceipts, ∃ r ∈ t.reservations,
      r.reservationId = f.reservationId ∧ r.isFinalized = true ∧
        r.usageHighWater ≤ f.finalUsage ∧ f.finalUsage ≤ r.upperBound := by
  intro f hf
  obtain ⟨r, hr, hid, hfinal, hbounds⟩ := hsettlements.settled f hf
  obtain ⟨r', hr', hcontinues⟩ := exists_continuing hs h hr
  obtain rfl := hcontinues.finalized hfinal
  exact ⟨r', hr', hid, hfinal, hbounds⟩

lemma settlements_of_change (hs : s.Distinct) (hrows : ∀ r ∈ s.reservations, r.WellFormed)
    (hsettlements : s.Settlements) (h : s.Change t) : t.Settlements := by
  have hkept := settled_of_change hs hsettlements h
  cases h with
  | quiet h =>
    exact ⟨h.finalizations ▸ hsettlements.receipts, h.finalizations ▸ hkept,
      h.reservations ▸ h.finalizations ▸ hsettlements.receipted⟩
  | openAccount _ h =>
    exact ⟨h.finalizations ▸ hsettlements.receipts, h.finalizations ▸ hkept,
      h.reservations ▸ h.finalizations ▸ hsettlements.receipted⟩
  | hold row _ h =>
    refine ⟨h.finalizations ▸ hsettlements.receipts, h.finalizations ▸ hkept, ?_⟩
    intro r hr hfinal
    rw [h.reservations, mem_append, mem_singleton] at hr
    rw [h.finalizations]
    rcases hr with hr | rfl
    · exact hsettlements.receipted r hr hfinal
    · simp [isFinalized, h.isNew.activated] at hfinal
  | advance row row' h =>
    refine ⟨h.finalizations ▸ hsettlements.receipts, h.finalizations ▸ hkept, ?_⟩
    intro r hr hfinal
    rw [h.reservations] at hr
    rw [h.finalizations]
    rcases eq_or_of_mem_replaceRow hr with rfl | ⟨hold, -⟩
    · have hopen := (isFinalized_of_advances (hrows row h.stored) h.advances).2
      simp [hopen] at hfinal
    · exact hsettlements.receipted r hold hfinal
  | report row receipt h =>
    refine ⟨h.finalizations ▸ hsettlements.receipts, h.finalizations ▸ hkept, ?_⟩
    intro r hr hfinal
    rw [h.reservations] at hr
    rw [h.finalizations]
    rcases eq_or_of_mem_replaceRow hr with rfl | ⟨hold, -⟩
    · exact hsettlements.receipted row h.stored hfinal
    · exact hsettlements.receipted r hold hfinal
  | settle row receipt account h =>
    refine ⟨?_, ?_, ?_⟩
    · rw [h.finalizations]
      exact hsettlements.receipts.append_singleton h.fresh
    · intro f hf
      rw [h.finalizations, mem_append, mem_singleton] at hf
      rcases hf with hf | rfl
      · exact hkept f hf
      · refine ⟨row.settled f, ?_, h.binds.symm, isFinalized_settled h.state, h.monotone, h.bounded⟩
        rw [h.reservations]
        exact mem_replaceRow_self h.stored rfl
    · intro r hr hfinal
      rw [h.reservations] at hr
      rw [h.finalizations]
      rcases eq_or_of_mem_replaceRow hr with rfl | ⟨hold, -⟩
      · exact ⟨receipt, mem_append_right _ (mem_singleton_self _), h.binds⟩
      · obtain ⟨f, hf, hid⟩ := hsettlements.receipted r hold hfinal
        exact ⟨f, mem_append_left _ hf, hid⟩

def finalUsage (s : ResourceAuthority) (reservationId : ReservationId) : ℕ :=
  (s.finalizeReceipt reservationId).elim 0 fun f => f.finalUsage.val

def heldCredit (s : ResourceAuthority) (accountId : ResourceAccountId) : ℕ :=
  ((s.reservations.filter fun r => r.accountId = accountId ∧ ¬ r.isFinalized).map
    fun r => r.upperBound.val).sum

def settledUsage (s : ResourceAuthority) (accountId : ResourceAccountId) : ℕ :=
  ((s.reservations.filter fun r => r.accountId = accountId ∧ r.isFinalized).map
    fun r => s.finalUsage r.reservationId).sum

def share (s : ResourceAuthority) (accountId : ResourceAccountId) (r : ReservationRow) : ℕ :=
  if r.accountId = accountId then
    if r.isFinalized then s.finalUsage r.reservationId else r.upperBound.val
  else 0

/-- Each reservation of an account counts as held credit or as settled usage. -/
lemma heldCredit_add_settledUsage (accountId : ResourceAccountId) :
    s.heldCredit accountId + s.settledUsage accountId =
      (s.reservations.map (s.share accountId)).sum := by
  unfold heldCredit settledUsage
  induction s.reservations with
  | nil => rfl
  | cons r rest ih =>
    rw [map_cons, sum_cons, ← ih]
    by_cases haccount : r.accountId = accountId
    · cases hfinal : r.isFinalized with
      | true =>
        simp only [filter_cons, share, haccount, hfinal, not_true, and_false, and_true,
          decide_false, decide_true, if_true, Bool.false_eq_true, if_false, map_cons, sum_cons]
        omega
      | false =>
        simp only [filter_cons, share, haccount, hfinal, Bool.false_eq_true, not_false_iff,
          and_true, and_false, decide_true, decide_false, if_true, if_false, map_cons, sum_cons]
        omega
    · simp [share, haccount]

lemma share_congr (hfinalizations : t.finalizeReceipts = s.finalizeReceipts)
    (accountId : ResourceAccountId) : t.share accountId = s.share accountId := by
  unfold share finalUsage finalizeReceipt
  rw [hfinalizations]

/-- Every reservation has an account that pays for it, and every account is balanced. -/
structure Balanced (s : ResourceAuthority) : Prop where
  payers : ∀ r ∈ s.reservations, ∃ a ∈ s.accounts, a.accountId = r.accountId
  balanced : ∀ a ∈ s.accounts,
    a.availableCredit.val + (s.reservations.map (s.share a.accountId)).sum = a.initialCredit.val

lemma sum_share_replaceRow (hs : s.Distinct)
    (hrow : row ∈ s.reservations) (hid : row'.reservationId = row.reservationId)
    (accountId : ResourceAccountId) :
    ((replaceRow (fun r : ReservationRow => r.reservationId) row' s.reservations).map
      (t.share accountId)).sum + t.share accountId row =
        (s.reservations.map (t.share accountId)).sum + t.share accountId row' :=
  hs.reservations.sum_replaceRow hrow hid _

lemma balanced_of_sameShare (hs : s.Distinct) (hbalanced : s.Balanced)
    (hrow : row ∈ s.reservations)
    (hcontinues : row.Continues row')
    (hfinal : row'.isFinalized = row.isFinalized) (haccounts : t.accounts = s.accounts)
    (hreservations : t.reservations =
      replaceRow (fun r : ReservationRow => r.reservationId) row' s.reservations)
    (hfinalizations : t.finalizeReceipts = s.finalizeReceipts) : t.Balanced := by
  refine ⟨?_, ?_⟩
  · intro r hr
    rw [hreservations] at hr
    rw [haccounts]
    rcases eq_or_of_mem_replaceRow hr with rfl | ⟨hold, -⟩
    · rw [hcontinues.accountId]
      exact hbalanced.payers row hrow
    · exact hbalanced.payers r hold
  · intro a ha
    rw [haccounts] at ha
    rw [hreservations, share_congr hfinalizations]
    have hsum := sum_share_replaceRow (t := s) hs hrow hcontinues.reservationId a.accountId
    have hshare : s.share a.accountId row' = s.share a.accountId row := by
      unfold share
      rw [hcontinues.accountId, hfinal, hcontinues.reservationId, hcontinues.upperBound]
    have hbefore := hbalanced.balanced a ha
    omega

lemma balanced_of_opensAccount (hbalanced : s.Balanced)
    (h : s.OpensAccount row t) : t.Balanced := by
  refine ⟨?_, ?_⟩
  · intro r hr
    rw [h.reservations] at hr
    obtain ⟨a, ha, hid⟩ := hbalanced.payers r hr
    exact ⟨a, h.accounts ▸ mem_append_left _ ha, hid⟩
  · intro a ha
    rw [h.reservations, share_congr h.finalizations]
    rw [h.accounts, mem_append, mem_singleton] at ha
    rcases ha with ha | rfl
    · exact hbalanced.balanced a ha
    · -- No reservation names an account that did not exist.
      have hnone : (s.reservations.map (s.share a.accountId)).sum = 0 := by
        refine sum_eq_zero fun x hx => ?_
        obtain ⟨r, hr, rfl⟩ := mem_map.mp hx
        obtain ⟨payer, hpayer, hid⟩ := hbalanced.payers r hr
        exact if_neg fun hsame => h.fresh payer hpayer (hid.trans hsame)
      rw [hnone, h.full, Nat.add_zero]

lemma exists_payer_of_replaceRow {account} (haccount : account ∈ s.accounts)
    (credit : U64) {accountId} (h : ∃ a ∈ s.accounts, a.accountId = accountId) :
    ∃ a ∈ replaceRow (fun a : AccountRow => a.accountId) (account.withAvailable credit) s.accounts,
      a.accountId = accountId := by
  obtain ⟨a, ha, rfl⟩ := h
  by_cases hid : a.accountId = account.accountId
  · exact ⟨account.withAvailable credit, mem_replaceRow_self haccount rfl, hid.symm⟩
  · exact ⟨a, mem_replaceRow_of_ne ha hid, rfl⟩

/-- A reservation moves credit from available to held. -/
lemma balanced_of_holds (hbalanced : s.Balanced) {row account}
    (h : s.Holds row account t) : t.Balanced := by
  have hopen : row.isFinalized = false := by simp [isFinalized, h.isNew.activated]
  refine ⟨?_, ?_⟩
  · intro r hr
    rw [h.accounts]
    rw [h.reservations, mem_append, mem_singleton] at hr
    refine exists_payer_of_replaceRow h.stored _ ?_
    rcases hr with hr | rfl
    · exact hbalanced.payers r hr
    · exact ⟨account, h.stored, h.pays⟩
  · intro a ha
    rw [h.reservations, share_congr h.finalizations, map_append, sum_append,
      map_singleton, sum_singleton]
    rw [h.accounts] at ha
    rcases eq_or_of_mem_replaceRow ha with rfl | ⟨hold, hne⟩
    · have hshare : s.share account.accountId row = row.upperBound.val := by
        simp [share, h.pays, hopen]
      have hbefore := hbalanced.balanced account h.stored
      have hcovered : row.upperBound.val ≤ account.availableCredit.val := h.covers
      change (account.availableCredit.saturatingSub row.upperBound).val +
        ((s.reservations.map (s.share account.accountId)).sum + s.share account.accountId row) =
          account.initialCredit.val
      rw [hshare, Word.saturatingSub_val]
      omega
    · have hshare : s.share a.accountId row = 0 :=
        if_neg fun hsame => hne (hsame.symm.trans h.pays.symm)
      rw [hshare, Nat.add_zero]
      exact hbalanced.balanced a hold

lemma share_of_settles (hsettlements : s.Settlements) {row receipt account}
    (h : s.Settles row receipt account t)
    (accountId : ResourceAccountId) {r} (hr : r ∈ s.reservations) :
    t.share accountId r = s.share accountId r := by
  unfold share
  cases hfinal : r.isFinalized with
  | false => rfl
  | true =>
    obtain ⟨f, hf, hid⟩ := hsettlements.receipted r hr hfinal
    have hfound := hsettlements.receipts.find?_eq_some_iff.mpr ⟨hf, hid⟩
    have husage : t.finalUsage r.reservationId = s.finalUsage r.reservationId := by
      unfold finalUsage finalizeReceipt
      rw [h.finalizations, find?_append, hfound]
      rfl
    rw [husage]

/-- A settlement gives back what was held and not used. -/
lemma balanced_of_settles (hs : s.Distinct) (hsettlements : s.Settlements)
    (hbalanced : s.Balanced) {row receipt account} (h : s.Settles row receipt account t) :
    t.Balanced := by
  refine ⟨?_, ?_⟩
  · intro r hr
    rw [h.reservations] at hr
    rw [h.accounts]
    refine exists_payer_of_replaceRow h.known _ ?_
    rcases eq_or_of_mem_replaceRow hr with rfl | ⟨hold, -⟩
    · exact hbalanced.payers row h.stored
    · exact hbalanced.payers r hold
  · intro a ha
    have hsum := sum_share_replaceRow (t := t) hs h.stored
      (show (row.settled receipt).reservationId = row.reservationId from rfl) a.accountId
    have hothers : s.reservations.map (t.share a.accountId) =
        s.reservations.map (s.share a.accountId) :=
      map_congr_left fun r hr => share_of_settles hsettlements h a.accountId hr
    rw [hothers] at hsum
    rw [h.reservations]
    rw [h.accounts] at ha
    rcases eq_or_of_mem_replaceRow ha with rfl | ⟨hold, hne⟩
    · have hfound : t.finalUsage row.reservationId = receipt.finalUsage.val := by
        have hnone : s.finalizeReceipts.find? (·.reservationId = row.reservationId) = none :=
          find?_eq_none.mpr fun f hf => by
            simpa [h.binds] using h.fresh f hf
        unfold finalUsage finalizeReceipt
        rw [h.finalizations, find?_append, hnone]
        simp [h.binds]
      have hbefore : t.share account.accountId row = row.upperBound.val := by
        simp [share, h.pays, isFinalized_of_settleable h.state]
      have hafter : t.share account.accountId (row.settled receipt) = receipt.finalUsage.val := by
        rw [← hfound]
        simp only [share, isFinalized_settled h.state, if_true]
        exact if_pos h.pays.symm
      have hbalance := hbalanced.balanced account h.known
      have hbelow : receipt.finalUsage.val ≤ row.upperBound.val := h.bounded
      have hrefunded : receipt.refundCredit.val = row.upperBound.val - receipt.finalUsage.val := by
        rw [h.refund, Word.saturatingSub_val]
      have hcredit : (account.availableCredit.saturatingAdd receipt.refundCredit).val =
          account.availableCredit.val + receipt.refundCredit.val :=
        Word.saturatingAdd_val (h.fits.trans (by norm_num))
      change (account.availableCredit.saturatingAdd receipt.refundCredit).val +
        ((replaceRow (fun r : ReservationRow => r.reservationId) (row.settled receipt)
          s.reservations).map (t.share account.accountId)).sum = account.initialCredit.val
      change ((replaceRow (fun r : ReservationRow => r.reservationId) (row.settled receipt)
          s.reservations).map (t.share account.accountId)).sum + t.share account.accountId row =
          (s.reservations.map (s.share account.accountId)).sum +
            t.share account.accountId (row.settled receipt) at hsum
      rw [hbefore, hafter] at hsum
      omega
    · have hother : ∀ r : ReservationRow, r.accountId = row.accountId →
          t.share a.accountId r = 0 :=
        fun r hr => if_neg fun hsame => hne (hsame.symm.trans (hr.trans h.pays.symm))
      rw [hother row rfl, hother (row.settled receipt) rfl] at hsum
      have hbalance := hbalanced.balanced a hold
      omega

lemma balanced_of_change (hs : s.Distinct) (hrows : ∀ r ∈ s.reservations, r.WellFormed)
    (hsettlements : s.Settlements) (hbalanced : s.Balanced) (h : s.Change t) : t.Balanced := by
  cases h with
  | quiet h =>
    refine ⟨h.accounts ▸ h.reservations ▸ hbalanced.payers, ?_⟩
    intro a ha
    rw [h.reservations, share_congr h.finalizations]
    exact hbalanced.balanced a (h.accounts ▸ ha)
  | openAccount row h => exact balanced_of_opensAccount hbalanced h
  | hold row account h => exact balanced_of_holds hbalanced h
  | advance row row' h =>
    obtain ⟨hbefore, hafter⟩ :=
      isFinalized_of_advances (hrows row h.stored) h.advances
    exact balanced_of_sameShare hs hbalanced h.stored
      (continues_of_advances h.advances) (hafter.trans hbefore.symm) h.accounts
      h.reservations h.finalizations
  | report row receipt h =>
    exact balanced_of_sameShare hs hbalanced h.stored (continues_reporting h) rfl h.accounts
      h.reservations h.finalizations
  | settle row receipt account h => exact balanced_of_settles hs hsettlements hbalanced h

/-- What holds of credit and reservations after every history. -/
structure Sound (s : ResourceAuthority) : Prop where
  distinct : s.Distinct
  rows : ∀ r ∈ s.reservations, r.WellFormed
  reports : s.Reports
  settlements : s.Settlements
  balanced : s.Balanced

lemma sound_new : Sound .new where
  distinct := distinct_new
  rows _ hr := absurd hr not_mem_nil
  reports := ⟨fun _ hc => absurd hc not_mem_nil, .nil⟩
  settlements := ⟨keyed_nil _, fun _ hf => absurd hf not_mem_nil, fun _ hr => absurd hr not_mem_nil⟩
  balanced := ⟨fun _ hr => absurd hr not_mem_nil, fun _ ha => absurd ha not_mem_nil⟩

lemma Sound.change (hs : s.Sound) (h : s.Change t) : t.Sound where
  distinct := distinct_of_change hs.distinct h
  rows := wellFormed_of_change hs.rows h
  reports := reports_of_change hs.distinct hs.reports h
  settlements := settlements_of_change hs.distinct hs.rows hs.settlements h
  balanced := balanced_of_change hs.distinct hs.rows hs.settlements hs.balanced h

/-- The invariants of the authority hold along every run. -/
lemma Sound.run (hs : s.Sound) (hrun : Run step s h t) : t.Sound :=
  Run.invariant hs (fun hu hstep => hu.change (change_of_step hu.distinct hstep)) hrun

/-- After every history, each account is balanced, and the usage reports of each reservation rise
up to its bound and to the usage it is settled at. -/
theorem credit_conservation {h : List ResourceEvent} (hrun : Run step .new h s) : (∀ a ∈ s.accounts,
      a.availableCredit.val + s.heldCredit a.accountId + s.settledUsage a.accountId =
        a.initialCredit.val) ∧ ∀ r ∈ s.reservations,
      (s.consumptionsOf r.reservationId).Pairwise (fun c d =>
        c.sequence < d.sequence ∧ c.cumulativeUsage ≤ d.cumulativeUsage) ∧
      (∀ c ∈ s.consumptionsOf r.reservationId, c.cumulativeUsage ≤ r.upperBound) ∧
      (r.state = .ok .finalized → ∃ f, s.finalizeReceipt r.reservationId = some f ∧
        f.finalUsage ≤ r.upperBound ∧
        ∀ c ∈ s.consumptionsOf r.reservationId, c.cumulativeUsage ≤ f.finalUsage) := by
  have hs : s.Sound := sound_new.run hrun
  refine ⟨?_, ?_⟩
  · intro a ha
    rw [Nat.add_assoc, heldCredit_add_settledUsage]
    exact hs.balanced.balanced a ha
  · intro r hr
    have hbelow : ∀ c ∈ s.consumptionsOf r.reservationId,
        c.cumulativeUsage ≤ r.usageHighWater := by
      intro c hc
      obtain ⟨hstored, hid⟩ := mem_filter.mp hc
      obtain ⟨row, hrow, hrowId, -, husage⟩ := hs.reports.stored c hstored
      obtain rfl := hs.distinct.reservations.eq hrow hr (hrowId.trans (of_decide_eq_true hid))
      exact husage
    refine ⟨?_, ?_, ?_⟩
    · apply List.Pairwise.imp_of_mem _ (hs.reports.ordered.filter _)
      intro c d hc hd hordered
      have hcId := of_decide_eq_true (mem_filter.mp hc).2
      have hdId := of_decide_eq_true (mem_filter.mp hd).2
      exact hordered (hcId.trans hdId.symm)
    · intro c hc
      exact (hbelow c hc).trans (hs.rows r hr).bounded
    · intro hfinal
      have hfinalized := ReservationRow.isFinalized_iff.mpr hfinal
      obtain ⟨f, hf, hid⟩ := hs.settlements.receipted r hr hfinalized
      obtain ⟨row, hrow, hrowId, -, hlow, hhigh⟩ := hs.settlements.settled f hf
      obtain rfl := hs.distinct.reservations.eq hrow hr (hrowId.trans hid)
      refine ⟨f, hs.settlements.receipts.find?_eq_some_iff.mpr ⟨hf, hid⟩, hhigh, ?_⟩
      intro c hc
      exact (hbelow c hc).trans hlow

namespace Sample

def driver : RegisterDriverRequest := ⟨7, 1, 10⟩

def driverId : DriverId :=
  id16 "nlos/driver/id/v1" [driver.idempotencyKey.bytes, (7 : Digest).bytes]

def account : CreateAccountRequest := ⟨100, 2, 10⟩

def quote : CreateQuoteRequest where
  driverId := driverId
  driverGeneration := .initial
  driverFencingToken := driverFence driverId .initial driver.idempotencyKey
  operationProposalDigest := 5
  pricingVersion := 6
  upperBound := 40
  demandCapacity := ⟨4, 4, 4⟩
  validUntilMs := 1000
  idempotencyKey := 3
  createdAtMs := 11

def reservation : ReserveRequest where
  accountId := (newAccount account).accountId
  quoteId := id16 "nlos/quote/id/v1"
    [quote.idempotencyKey.bytes, quote.operationProposalDigest.bytes]
  callId := 1
  operationId := 1
  idempotencyKey := 4
  demand := ⟨1, 1, 1⟩
  reservedAtMs := 12

def reservationId : ReservationId :=
  id16 "nlos/reservation/id/v1" [reservation.idempotencyKey.bytes, reservation.operationId.bytes]

def activationToken : Digest :=
  hash "nlos/reservation/activate/v1"
    [reservationId.bytes, reservation.operationId.bytes, reservation.idempotencyKey.bytes]

def activation : ActivateReservationRequest :=
  ⟨reservationId, 1, 1, driverId, .initial, quote.driverFencingToken, activationToken, 13⟩

def activationReceiptId : ReceiptId :=
  id16 "nlos/reservation-activation/receipt/v1" [reservationId.bytes, activationToken.bytes]

def openCalls : List ResourceCall :=
  [.registerDriver driver ⟨1, 1⟩, .createAccount account ⟨2, 2⟩, .createQuote quote,
    .reserve reservation, .activate activation]

def usage : ConsumeReservationRequest := ⟨reservationId, 1, activationReceiptId, 1, 10, 14⟩

def settlement : FinalizeReservationRequest :=
  ⟨reservationId, 1, activationReceiptId, 9, 2, 25, 15⟩

end Sample

theorem credit_conservation_settled :
    ∃ h s, Run step .new h s ∧ ∃ a ∈ s.accounts, a.initialCredit = 100 ∧ a.availableCredit = 75 ∧
      s.heldCredit a.accountId + s.settledUsage a.accountId = 25 := by
  have hcheck : runCheck step .new
      (Sample.openCalls ++ [.consume Sample.usage, .finalizeReservation Sample.settlement])
      (fun _ s => s.accounts.any fun a => a.initialCredit = 100 ∧ a.availableCredit = 75) =
      true := by
    decide +kernel
  obtain ⟨h, s, hrun, -, hsettled⟩ := exists_run_of_runCheck hcheck
  obtain ⟨a, ha, hcredit⟩ := any_eq_true.mp hsettled
  obtain ⟨hinitial, havailable⟩ := of_decide_eq_true hcredit
  refine ⟨h, s, hrun, a, ha, hinitial, havailable, ?_⟩
  have hbalance := (credit_conservation hrun).1 a ha
  rw [hinitial, havailable] at hbalance
  change 75 + s.heldCredit a.accountId + s.settledUsage a.accountId = 100 at hbalance
  omega

/-- No reservation is lost in a history: it keeps its payer and its bound, its reported usage only
rises, and once it is settled it stays as it is. -/
theorem reservations_continue {h : List ResourceEvent} (hrun : Run step .new h s) :
    ∀ earlier ∈ states h s, ∀ r ∈ earlier.reservations, ∃ r' ∈ s.reservations, r.Continues r' := by
  intro earlier hmem r hr
  obtain ⟨h₁, h₂, -, hbefore, hafter⟩ := hrun.split_at hmem
  have hkept : s.Sound ∧ ∃ r' ∈ s.reservations, r.Continues r' := by
    refine hafter.invariant (P := fun t => t.Sound ∧ ∃ r' ∈ t.reservations, r.Continues r')
      ⟨sound_new.run hbefore, r, hr, .refl r⟩ ?_
    rintro t u call answer ⟨hsound, r', hr', hcontinues⟩ hstep
    have hchange := change_of_step hsound.distinct hstep
    obtain ⟨r'', hr'', hnext⟩ := exists_continuing hsound.distinct hchange hr'
    exact ⟨hsound.change hchange, r'', hr'', hcontinues.trans hnext⟩
  exact hkept.2

theorem reservations_continue_open : ∃ h s, Run step .new h s ∧ s.reservations ≠ [] ∧
    ∀ earlier ∈ states h s, ∀ r ∈ earlier.reservations, ∃ r' ∈ s.reservations, r.Continues r' := by
  have hcheck :
      runCheck step .new Sample.openCalls (fun _ s => !s.reservations.isEmpty) = true := by
    decide +kernel
  obtain ⟨h, s, hrun, -, hopen⟩ := exists_run_of_runCheck hcheck
  exact ⟨h, s, hrun, by simpa using hopen, reservations_continue hrun⟩

end ResourceAuthority

end Nlos.Resource
