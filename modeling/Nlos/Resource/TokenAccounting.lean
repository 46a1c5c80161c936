import Nlos.Resource.Conservation

/-!
# Token accounting

The counters of a token budget are the sums over the charges that were answered with a receipt.
Charges are numbered without gaps, carry the running totals and never pass a limit.
-/

namespace Nlos.Resource

open Lib Capability List LlmTokenUsage

namespace LlmTokenUsage

/-- The six metered quantities. -/
def fields : List (LlmTokenUsage → U64) :=
  [promptTokens, completionTokens, reasoningTokens, totalTokens, apiCalls, costMicrocredits]

lemma val_of_checkedAdd {consumed usage next} (h : consumed.checkedAdd usage = some next) :
    ∀ f ∈ fields, (f next).val = (f consumed).val + (f usage).val := by
  simp only [checkedAdd, Option.bind_eq_bind, Option.bind_eq_some_iff, Option.pure_def,
    Option.some.injEq, Word.checkedAdd_eq_some_iff] at h
  obtain ⟨_, hprompt, _, hcompletion, _, hreasoning, _, htotal, _, hcalls, _, hcost, rfl⟩ := h
  simp [fields, hprompt, hcompletion, hreasoning, htotal, hcalls, hcost]

def Totals (usage : LlmTokenUsage) : Prop :=
  usage.totalTokens.val =
    usage.promptTokens.val + usage.completionTokens.val + usage.reasoningTokens.val

def Within (usage : LlmTokenUsage) (limits : LlmTokenLimits) : Prop :=
  ∀ dimension : LlmBudgetDimension, usage.inDimension dimension ≤ dimension.limitOf limits

lemma zero_within (limits : LlmTokenLimits) : zero.Within limits := by
  intro dimension
  cases dimension <;> exact Fin.zero_le _

lemma Totals.checkedAdd {consumed usage next : LlmTokenUsage} (hconsumed : consumed.Totals)
    (husage : usage.Totals) (h : consumed.checkedAdd usage = some next) : next.Totals := by
  have hfields := val_of_checkedAdd h
  have hprompt := hfields promptTokens (by simp [fields])
  have hcompletion := hfields completionTokens (by simp [fields])
  have hreasoning := hfields reasoningTokens (by simp [fields])
  have htotal := hfields totalTokens (by simp [fields])
  unfold Totals at hconsumed husage ⊢
  omega

end LlmTokenUsage

lemma LlmBudgetDimension.mem_all (dimension : LlmBudgetDimension) :
    dimension ∈ LlmBudgetDimension.all := by
  cases dimension <;> simp [all]

def sumOf (f : LlmTokenUsage → U64) (receipts : List LlmTokenConsumptionReceipt) : ℕ :=
  (receipts.map fun r => (f r.usage).val).sum

lemma sumOf_append_singleton (f : LlmTokenUsage → U64)
    (receipts : List LlmTokenConsumptionReceipt) (r : LlmTokenConsumptionReceipt) :
    sumOf f (receipts ++ [r]) = sumOf f receipts + (f r.usage).val := by
  simp [sumOf]

/-- A charge has the number after those before it and the totals up to itself. -/
structure Follows (earlier : List LlmTokenConsumptionReceipt) (r : LlmTokenConsumptionReceipt) :
    Prop where
  sequence : r.sequence.val = earlier.length + 1
  cumulativeTotalTokens : r.cumulativeTotalTokens.val = sumOf (·.totalTokens) (earlier ++ [r])
  cumulativeApiCalls : r.cumulativeApiCalls.val = sumOf (·.apiCalls) (earlier ++ [r])
  cumulativeCostMicrocredits :
    r.cumulativeCostMicrocredits.val = sumOf (·.costMicrocredits) (earlier ++ [r])

def charged? : Result ResourceAnswer → Option LlmTokenConsumptionReceipt
  | .ok (.tokens (.charged receipt)) => some receipt
  | _ => none

namespace ResourceAuthority

variable {s t : ResourceAuthority}

/-! ## What a call can do to budgets -/

def chargesOf (s : ResourceAuthority) (accountId : ResourceAccountId) :
    List LlmTokenConsumptionReceipt :=
  (s.llmTokenConsumptions.map LlmTokenConsumptionRow.receipt).filter
    fun r => r.accountId = accountId

inductive TokenChange (s : ResourceAuthority) :
    Option LlmTokenConsumptionReceipt → ResourceAuthority → Prop
  | quiet {t : ResourceAuthority} (same : s.SameTokens t) : TokenChange s none t
  | openBudget {t : ResourceAuthority} (row : LlmTokenBudgetRow)
      (fresh : ∀ b ∈ s.llmTokenBudgets, b.accountId ≠ row.accountId)
      (empty : row.consumed = .zero) (budgets : t.llmTokenBudgets = s.llmTokenBudgets ++ [row])
      (charges : t.llmTokenConsumptions = s.llmTokenConsumptions) : TokenChange s none t
  | relimit {t : ResourceAuthority} (row row' : LlmTokenBudgetRow)
      (stored : row ∈ s.llmTokenBudgets) (account : row'.accountId = row.accountId)
      (consumed : row'.consumed = row.consumed) (within : row'.consumed.Within row'.limits)
      (budgets : t.llmTokenBudgets =
        replaceRow (fun b : LlmTokenBudgetRow => b.accountId) row' s.llmTokenBudgets)
      (charges : t.llmTokenConsumptions = s.llmTokenConsumptions) : TokenChange s none t
  | charge {t : ResourceAuthority} (row row' : LlmTokenBudgetRow) (entry : LlmTokenConsumptionRow)
      (stored : row ∈ s.llmTokenBudgets) (account : row'.accountId = row.accountId)
      (payer : entry.receipt.accountId = row.accountId)
      (counted : row.consumed.checkedAdd entry.receipt.usage = some row'.consumed)
      (totals : entry.receipt.usage.Totals) (within : row'.consumed.Within row'.limits)
      (sequence : entry.receipt.sequence.val = (s.lastSequence row.accountId).val + 1)
      (cumulativeTotalTokens : entry.receipt.cumulativeTotalTokens = row'.consumed.totalTokens)
      (cumulativeApiCalls : entry.receipt.cumulativeApiCalls = row'.consumed.apiCalls)
      (cumulativeCostMicrocredits :
        entry.receipt.cumulativeCostMicrocredits = row'.consumed.costMicrocredits)
      (budgets : t.llmTokenBudgets =
        replaceRow (fun b : LlmTokenBudgetRow => b.accountId) row' s.llmTokenBudgets)
      (charges : t.llmTokenConsumptions = s.llmTokenConsumptions ++ [entry]) :
      TokenChange s (some entry.receipt) t

abbrev OneBudget (s : ResourceAuthority) : Prop :=
  Keyed (fun b : LlmTokenBudgetRow => b.accountId) s.llmTokenBudgets

lemma llmTokenBudget_eq_some (hs : s.OneBudget)
    (h : s.llmTokenBudget accountId = some record) :
    ∃ row ∈ s.llmTokenBudgets, row.accountId = accountId ∧ row.toLlmTokenBudgetRecord = record := by
  obtain ⟨row, hrow, rfl⟩ := Option.map_eq_some_iff.mp h
  obtain ⟨hmem, hid⟩ := hs.find?_eq_some_iff.mp hrow
  exact ⟨row, hmem, hid, rfl⟩

lemma within_of_checkWithinLimits {next limits}
    (h : checkWithinLimits next limits = .ok ()) : next.Within limits := by
  intro dimension
  have hchecked := forM_eq_ok.mp h dimension (LlmBudgetDimension.mem_all dimension)
  exact not_lt.mp (refuseIf_eq_ok.mp hchecked)

lemma within_of_checkNotBelowConsumed
    (h : checkNotBelowConsumed consumed limits = .ok ()) : consumed.Within limits := by
  intro dimension
  have hchecked := forM_eq_ok.mp h dimension (LlmBudgetDimension.mem_all dimension)
  exact not_lt.mp (refuseIf_eq_ok.mp hchecked)

lemma tokenChange_of_createLlmTokenBudget
    (h : s.createLlmTokenBudget q = .ok (t, decision)) : s.TokenChange none t := by
  unfold createLlmTokenBudget at h
  split at h
  · obtain rfl := eq_of_bind_pure h
    exact .quiet (.refl _)
  · simp only [bind_eq_ok, insertOrRefuse_eq_ok, pure_eq_ok, Prod.mk.injEq] at h
    obtain ⟨-, -, -, -, -, -, -, -, budgets, ⟨hfresh, rfl⟩, rfl, -⟩ := h
    exact .openBudget _ (fun b hb hclash => hfresh b hb (.inl hclash)) rfl rfl rfl

lemma tokenChange_of_updateLlmTokenBudget (hs : s.OneBudget)
    (h : s.updateLlmTokenBudget q = .ok (t, decision)) : s.TokenChange none t := by
  unfold updateLlmTokenBudget at h
  split at h
  · simp only [bind_eq_ok, pure_eq_ok, Prod.mk.injEq] at h
    obtain ⟨-, -, current, -, rfl, -⟩ := h
    exact .quiet (.refl _)
  · simp only [bind_eq_ok, orRefuse_eq_ok, refuseIf_eq_ok, pure_eq_ok, not_not, Prod.mk.injEq] at h
    obtain ⟨current, hcurrent, -, hgeneration, -, -, _, hchecked, -, -, generation, -, -, -, -, -,
      -, -, revisions, -, -, -, rfl, -⟩ := h
    obtain ⟨row, hrow, hid, rfl⟩ := llmTokenBudget_eq_some hs hcurrent
    refine .relimit row { row with
      generation := generation
      limits := q.limits
      updatedAtMs := q.updatedAtMs } hrow rfl rfl (within_of_checkNotBelowConsumed hchecked) ?_ rfl
    exact hs.updateRows_eq_replaceRow hrow ⟨hid, hgeneration⟩
      (fun b hb => hb.1.trans hid.symm) rfl

lemma totals_of_usage {q : ConsumeLlmTokensRequest} (h : q.usage = some usage) :
    usage.Totals := by
  simp only [ConsumeLlmTokensRequest.usage, Option.bind_eq_bind, Option.bind_eq_some_iff,
    Option.pure_def, Option.some.injEq, Word.checkedAdd_eq_some_iff] at h
  obtain ⟨sum, hsum, total, htotal, rfl⟩ := h
  change total.val = q.promptTokens.val + q.completionTokens.val + q.reasoningTokens.val
  omega

lemma tokenChange_of_charge (hs : s.OneBudget) {q row} (hrow : row ∈ s.llmTokenBudgets)
    (hid : row.accountId = q.accountId) {usage next} (husage : usage.Totals)
    (hnext : row.consumed.checkedAdd usage = some next) (hwithin : next.Within row.limits)
    {decision} (h : s.charge q row.toLlmTokenBudgetRecord usage next = .ok (t, decision)) :
    ∃ receipt, decision = .charged receipt ∧ s.TokenChange (some receipt) t := by
  simp only [charge, bind_eq_ok, orRefuse_eq_ok, insertOrRefuse_eq_ok, pure_eq_ok, Prod.mk.injEq,
    Word.checkedAdd_eq_some_iff] at h
  obtain ⟨sequence, hsequence, -, -, -, -, charges, ⟨-, rfl⟩, -, -, rfl, rfl⟩ := h
  refine ⟨_, rfl, .charge row { row with
    consumed := next
    updatedAtMs := max row.updatedAtMs q.consumedAtMs } ⟨q.idempotencyKey, _⟩ hrow rfl hid.symm
    hnext husage hwithin (hid ▸ hsequence) rfl rfl rfl ?_ rfl⟩
  exact hs.updateRows_eq_replaceRow hrow (by simp [hid]) (fun b hb => by simp_all) rfl

lemma tokenChange_of_consumeLlmTokens (hs : s.OneBudget) {q decision}
    (h : s.consumeLlmTokens q = .ok (t, decision)) :
    s.TokenChange (charged? (.ok (.tokens decision))) t := by
  unfold consumeLlmTokens at h
  split at h
  · simp only [bind_eq_ok, pure_eq_ok, Prod.mk.injEq] at h
    obtain ⟨-, -, rfl, rfl⟩ := h
    exact .quiet (.refl _)
  · simp only [bind_eq_ok, orRefuse_eq_ok] at h
    obtain ⟨-, -, usage, husage, current, hcurrent, -, -, next, hnext, -, -, _, hlimits, h⟩ := h
    obtain ⟨row, hrow, hid, rfl⟩ := llmTokenBudget_eq_some hs hcurrent
    obtain ⟨receipt, rfl, hchange⟩ := tokenChange_of_charge hs hrow hid (totals_of_usage husage)
      hnext (within_of_checkWithinLimits hlimits) h
    exact hchange

lemma tokenChange_of_call (hcredit : s.Distinct) (hs : s.OneBudget)
    (h : s.call c = .ok (t, answer)) : s.TokenChange (charged? (.ok answer)) t := by
  cases c <;> simp only [call, map_eq_ok, Prod.exists, Prod.map_apply, id_eq, Prod.mk.injEq] at h
    <;> obtain ⟨t, decision, h, rfl, rfl⟩ := h
  case registerDriver => exact .quiet (sameLedgers_of_registerDriver h).effect.2
  case rotateDriver => exact .quiet (sameLedgers_of_rotateDriver h).effect.2
  case createAccount => exact .quiet (effect_of_createAccount h).2
  case createQuote => exact .quiet (sameLedgers_of_createQuote h).effect.2
  case reserve => exact .quiet (effect_of_reserve hcredit h).2
  case activate => exact .quiet (effect_of_activate hcredit h).2
  case consume => exact .quiet (effect_of_consume hcredit h).2
  case quarantine => exact .quiet (effect_of_quarantine hcredit h).2
  case finalizeReservation => exact .quiet (effect_of_finalizeReservation hcredit h).2
  case recordThrottleDecision => exact .quiet (sameLedgers_of_recordThrottleDecision h).effect.2
  case createLlmTokenBudget => exact tokenChange_of_createLlmTokenBudget h
  case updateLlmTokenBudget => exact tokenChange_of_updateLlmTokenBudget hs h
  case consumeLlmTokens => exact tokenChange_of_consumeLlmTokens hs h

/-- A call charges one budget, revises one, opens one or leaves them as they are. -/
lemma tokenChange_of_step (hcredit : s.Distinct) (hs : s.OneBudget)
    (h : s.step c = .ok (t, answer)) : s.TokenChange (charged? answer) t := by
  have hcommit := Except.ok.inj h
  cases answer with
  | error =>
    obtain ⟨-, rfl⟩ := commit_eq_error.mp hcommit
    exact .quiet (.refl _)
  | ok => exact tokenChange_of_call hcredit hs (commit_eq_ok.mp hcommit)

lemma val_foldr_max (sequences : List U64) :
    (sequences.foldr max 0).val = (sequences.map Fin.val).foldr max 0 := by
  induction sequences with
  | nil => rfl
  | cons n rest ih =>
    rw [foldr_cons, map_cons, foldr_cons, ← ih]
    rcases le_total n (rest.foldr max 0) with hle | hle
    · rw [max_eq_right hle, max_eq_right (show n.val ≤ _ from hle)]
    · rw [max_eq_left hle, max_eq_left (show _ ≤ n.val from hle)]

lemma foldr_max_eq (l : List ℕ) (n : ℕ) : l.foldr max n = max (l.foldr max 0) n := by
  induction l with
  | nil => simp
  | cons m rest ih => rw [foldr_cons, foldr_cons, ih, max_assoc]

/-- Charges numbered without gaps end at their count. -/
lemma foldr_max_sequence (h : EachAfter Follows receipts) :
    ((receipts.map LlmTokenConsumptionReceipt.sequence).foldr max 0).val = receipts.length := by
  rw [val_foldr_max, map_map]
  -- The last charge has the largest number.
  induction receipts using List.reverseRecOn with
  | nil => rfl
  | append_singleton earlier r ih =>
    have hearlier : EachAfter Follows earlier := fun l₁ x l₂ hsplit =>
      h l₁ x (l₂ ++ [r]) (by rw [hsplit]; simp)
    have hlast := (h earlier r [] rfl).sequence
    have hbound := ih hearlier
    rw [map_append, foldr_append, foldr_max_eq, hbound]
    simp [hlast]

lemma lastSequence_val (accountId : ResourceAccountId)
    (h : EachAfter Follows (s.chargesOf accountId)) :
    (s.lastSequence accountId).val = (s.chargesOf accountId).length := by
  have hsame : s.lastSequence accountId =
      ((s.chargesOf accountId).map LlmTokenConsumptionReceipt.sequence).foldr max 0 := by
    unfold lastSequence chargesOf
    rw [filter_map, map_map]
    rfl
  rw [hsame]
  exact foldr_max_sequence h

structure Accounts (b : LlmTokenBudgetRow) (receipts : List LlmTokenConsumptionReceipt) :
    Prop where
  counted : ∀ f ∈ LlmTokenUsage.fields, (f b.consumed).val = sumOf f receipts
  totals : b.consumed.Totals
  within : b.consumed.Within b.limits

structure TokenSound (s : ResourceAuthority) : Prop where
  budgets : s.OneBudget
  accounts : ∀ b ∈ s.llmTokenBudgets, Accounts b (s.chargesOf b.accountId)
  numbered : ∀ accountId, EachAfter Follows (s.chargesOf accountId)
  payers : ∀ accountId, s.chargesOf accountId ≠ [] →
    ∃ b ∈ s.llmTokenBudgets, b.accountId = accountId

lemma tokenSound_new : TokenSound .new where
  budgets := keyed_nil _
  accounts _ hb := absurd hb not_mem_nil
  numbered _ := eachAfter_nil _
  payers _ h := absurd rfl h

lemma chargesOf_congr (h : t.llmTokenConsumptions = s.llmTokenConsumptions)
    (accountId : ResourceAccountId) : t.chargesOf accountId = s.chargesOf accountId := by
  unfold chargesOf
  rw [h]

lemma chargesOf_append
    (h : t.llmTokenConsumptions = s.llmTokenConsumptions ++ [entry])
    (accountId : ResourceAccountId) :
    t.chargesOf accountId =
      s.chargesOf accountId ++
        if entry.receipt.accountId = accountId then [entry.receipt] else [] := by
  unfold chargesOf
  rw [h, map_append, filter_append, map_singleton]
  by_cases haccount : entry.receipt.accountId = accountId <;> simp [haccount]

lemma Accounts.charge {row row' receipts} {receipt : LlmTokenConsumptionReceipt}
    (h : Accounts row receipts)
    (hcounted : row.consumed.checkedAdd receipt.usage = some row'.consumed)
    (htotals : receipt.usage.Totals) (hwithin : row'.consumed.Within row'.limits) :
    Accounts row' (receipts ++ [receipt]) where
  counted f hf := by
    rw [sumOf_append_singleton, val_of_checkedAdd hcounted f hf, h.counted f hf]
  totals := h.totals.checkedAdd htotals hcounted
  within := hwithin

/-- A charge within the limits is counted once, in its budget and in its receipt. -/
lemma tokenSound_of_charge (hs : s.TokenSound) (hrow : row ∈ s.llmTokenBudgets)
    (haccount : row'.accountId = row.accountId) (hpayer : entry.receipt.accountId = row.accountId)
    (hcharged : Accounts row' (s.chargesOf row.accountId ++ [entry.receipt]))
    (hfollows : Follows (s.chargesOf row.accountId) entry.receipt) (hbudgets : t.llmTokenBudgets =
      replaceRow (fun b : LlmTokenBudgetRow => b.accountId) row' s.llmTokenBudgets)
    (hcharges : t.llmTokenConsumptions = s.llmTokenConsumptions ++ [entry]) : t.TokenSound where
  budgets := by
    unfold OneBudget
    rw [hbudgets]
    exact hs.budgets.replaceRow
  accounts b hb := by
    rw [hbudgets] at hb
    rw [chargesOf_append hcharges]
    rcases eq_or_of_mem_replaceRow hb with rfl | ⟨hold, hne⟩
    · rw [if_pos (hpayer.trans haccount.symm), haccount]
      exact hcharged
    · rw [if_neg fun hsame => hne (hsame.symm.trans (hpayer.trans haccount.symm)), append_nil]
      exact hs.accounts b hold
  numbered accountId := by
    rw [chargesOf_append hcharges]
    by_cases hsame : entry.receipt.accountId = accountId
    · obtain rfl := hpayer.symm.trans hsame
      rw [if_pos hsame]
      exact (hs.numbered row.accountId).append_singleton hfollows
    · rw [if_neg hsame, append_nil]
      exact hs.numbered accountId
  payers accountId hsome := by
    rw [hbudgets]
    by_cases hsame : row.accountId = accountId
    · exact ⟨row', mem_replaceRow_self hrow haccount, haccount.trans hsame⟩
    · rw [chargesOf_append hcharges, if_neg fun h => hsame (hpayer.symm.trans h),
        append_nil] at hsome
      obtain ⟨b, hb, rfl⟩ := hs.payers accountId hsome
      exact ⟨b, mem_replaceRow_of_ne hb fun h => hsame (h.trans haccount).symm, rfl⟩

lemma tokenSound_of_change (hs : s.TokenSound)
    (h : s.TokenChange receipt t) : t.TokenSound := by
  cases h with
  | quiet same =>
    have hsame := chargesOf_congr same.charges
    refine ⟨?_, ?_, ?_, ?_⟩
    · unfold OneBudget
      rw [same.budgets]
      exact hs.budgets
    · intro b hb
      rw [hsame]
      exact hs.accounts b (same.budgets ▸ hb)
    · intro accountId
      rw [hsame]
      exact hs.numbered accountId
    · intro accountId hsome
      rw [hsame] at hsome
      exact same.budgets ▸ hs.payers accountId hsome
  | openBudget row fresh empty budgets charges =>
    have hsame := chargesOf_congr charges
    refine ⟨?_, ?_, ?_, ?_⟩
    · unfold OneBudget
      rw [budgets]
      exact hs.budgets.append_singleton fresh
    · intro b hb
      rw [budgets, mem_append, mem_singleton] at hb
      rw [hsame]
      rcases hb with hb | rfl
      · exact hs.accounts b hb
      · -- Nothing was charged to an account without a budget.
        have hnone : s.chargesOf b.accountId = [] := by
          by_contra hsome
          obtain ⟨b', hb', hid⟩ := hs.payers b.accountId hsome
          exact fresh b' hb' hid
        rw [hnone]
        refine ⟨?_, ?_, ?_⟩
        · rw [empty]
          simp [fields, zero, sumOf]
        · rw [empty]
          rfl
        · rw [empty]
          exact zero_within _
    · intro accountId
      rw [hsame]
      exact hs.numbered accountId
    · intro accountId hsome
      rw [hsame] at hsome
      obtain ⟨b, hb, hid⟩ := hs.payers accountId hsome
      exact ⟨b, budgets ▸ mem_append_left _ hb, hid⟩
  | relimit row row' stored account consumed within budgets charges =>
    have hsame := chargesOf_congr charges
    refine ⟨?_, ?_, ?_, ?_⟩
    · unfold OneBudget
      rw [budgets]
      exact hs.budgets.replaceRow
    · intro b hb
      rw [budgets] at hb
      rw [hsame]
      rcases eq_or_of_mem_replaceRow hb with rfl | ⟨hold, -⟩
      · have hbefore := hs.accounts row stored
        rw [account]
        exact ⟨consumed ▸ hbefore.counted, consumed ▸ hbefore.totals, within⟩
      · exact hs.accounts b hold
    · intro accountId
      rw [hsame]
      exact hs.numbered accountId
    · intro accountId hsome
      rw [hsame] at hsome
      obtain ⟨b, hb, rfl⟩ := hs.payers accountId hsome
      rw [budgets]
      by_cases hid : b.accountId = row'.accountId
      · exact ⟨row', mem_replaceRow_self stored account, hid.symm⟩
      · exact ⟨b, mem_replaceRow_of_ne hb hid, rfl⟩
  | charge row row' entry stored account payer counted totals within sequence total calls cost
      budgets charges =>
      have hcharged := (hs.accounts row stored).charge counted totals within
      refine tokenSound_of_charge hs stored account payer hcharged ?_ budgets charges
      refine ⟨?_, ?_, ?_, ?_⟩
      · rw [sequence, lastSequence_val row.accountId (hs.numbered row.accountId)]
      · rw [total]
        exact hcharged.counted _ (by simp [fields])
      · rw [calls]
        exact hcharged.counted _ (by simp [fields])
      · rw [cost]
        exact hcharged.counted _ (by simp [fields])

/-- The receipts of the charges to one account in a history; replays and refusals are none. -/
def chargedIn (h : List ResourceEvent) (accountId : ResourceAccountId) :
    List LlmTokenConsumptionReceipt :=
  (h.filterMap fun e => charged? e.output).filter fun r => r.accountId = accountId

/-- The charges of an account are the receipts the run has answered. -/
lemma tokens_of_run (hrun : Run step .new h s) :
    s.TokenSound ∧ ∀ accountId, s.chargesOf accountId = chargedIn h accountId := by
  induction hrun with
  | refl => exact ⟨tokenSound_new, fun _ => rfl⟩
  | snoc hprefix hstep ih =>
    obtain ⟨hsound, hcharges⟩ := ih
    have hchange := tokenChange_of_step (sound_new.run hprefix).distinct hsound.budgets hstep
    refine ⟨tokenSound_of_change hsound hchange, fun accountId => ?_⟩
    unfold chargedIn
    rw [filterMap_append, filter_append]
    have hbefore := hcharges accountId
    unfold chargedIn at hbefore
    rw [← hbefore]
    generalize hanswer : charged? _ = receipt at hchange
    cases hchange with
    | quiet same => simp [hanswer, chargesOf_congr same.charges]
    | openBudget _ _ _ _ charges => simp [hanswer, chargesOf_congr charges]
    | relimit _ _ _ _ _ _ _ charges => simp [hanswer, chargesOf_congr charges]
    | charge _ _ entry _ _ _ _ _ _ _ _ _ _ _ charges =>
      rw [chargesOf_append charges]
      by_cases haccount : entry.receipt.accountId = accountId <;> simp [hanswer, haccount]

/-- After every history, the counters of a budget are the sums over the charges answered with a
receipt, within the limits; charges are numbered without gaps and carry the running totals; a
refused call changes nothing. -/
theorem token_accounting {h : List ResourceEvent} (hrun : Run step .new h s) :
    (∀ b ∈ s.llmTokenBudgets,
      (∀ f ∈ LlmTokenUsage.fields, (f b.consumed).val = sumOf f (chargedIn h b.accountId)) ∧
      b.consumed.totalTokens.val = b.consumed.promptTokens.val + b.consumed.completionTokens.val +
        b.consumed.reasoningTokens.val ∧ ∀ dimension : LlmBudgetDimension,
        b.consumed.inDimension dimension ≤ dimension.limitOf b.limits) ∧
    (∀ accountId, EachAfter Follows (chargedIn h accountId) ∧
      s.chargesOf accountId = chargedIn h accountId) ∧
    ∀ call e t, s.step call = .ok (t, .error e) → t = s := by
  obtain ⟨hsound, hcharges⟩ := tokens_of_run hrun
  refine ⟨?_, ?_, ?_⟩
  · intro b hb
    have hbudget := hsound.accounts b hb
    rw [hcharges] at hbudget
    exact ⟨hbudget.counted, hbudget.totals, hbudget.within⟩
  · intro accountId
    exact ⟨hcharges accountId ▸ hsound.numbered accountId, hcharges accountId⟩
  · intro call e t hstep
    exact (commit_eq_error.mp (Except.ok.inj hstep)).2

namespace Sample

def budget : CreateLlmTokenBudgetRequest :=
  ⟨(newAccount account).accountId, ⟨10, 10, 20, 5, 50⟩, 6, 20⟩

def tokens (key : IdempotencyKey) : ConsumeLlmTokensRequest where
  accountId := (newAccount account).accountId
  operationId := 1
  promptTokens := 3
  completionTokens := 2
  reasoningTokens := 1
  apiCalls := 1
  costMicrocredits := 7
  idempotencyKey := key
  consumedAtMs := 21

/-- Two charges, the second of them repeated. -/
def tokenCalls : List ResourceCall :=
  [.createAccount account ⟨2, 2⟩, .createLlmTokenBudget budget, .consumeLlmTokens (tokens 7),
    .consumeLlmTokens (tokens 8), .consumeLlmTokens (tokens 8)]

end Sample

theorem token_accounting_charged :
    ∃ h s, Run step .new h s ∧ ∃ b ∈ s.llmTokenBudgets, b.consumed.totalTokens = 12 ∧
      sumOf LlmTokenUsage.totalTokens (chargedIn h b.accountId) = 12 := by
  have hcheck : runCheck step .new Sample.tokenCalls
      (fun _ s => s.llmTokenBudgets.any fun b => b.consumed.totalTokens = 12) = true := by
    decide +kernel
  obtain ⟨h, s, hrun, -, hcharged⟩ := exists_run_of_runCheck hcheck
  obtain ⟨b, hb, htotal⟩ := any_eq_true.mp hcharged
  have htotal := of_decide_eq_true htotal
  refine ⟨h, s, hrun, b, hb, htotal, ?_⟩
  have hcounted := ((token_accounting hrun).1 b hb).1 LlmTokenUsage.totalTokens
    (by simp [LlmTokenUsage.fields])
  rw [← hcounted, htotal]
  rfl

end ResourceAuthority

end Nlos.Resource
