import Nlos.Semantic.Merge

/-!
# The merge is the conflict-free union

Which observations of a group are implicated in a conflict, and what a merge does with the items it
is given: a valid item survives unless its receipt is implicated.
-/

namespace Nlos.Semantic

open Lib Capability List SignedEventSetItem

section Items

variable {ι μ : Type} {validate : SignedEventSetOrigin → ι → Except SignedEventSetRejection Unit}
  {eventIdOf : ι → SemanticEventId}
  {mergeGroup : SemanticEventId → List (SignedEventSetOrigin × ι) → GroupReport μ}
  {first second : List ι}

lemma exists_mem_itemsOf :
    (∃ origin, (origin, item) ∈ itemsOf first second) ↔ item ∈ first ++ second := by
  simp only [itemsOf, mem_append, mem_map, Prod.mk.injEq]
  constructor
  · rintro ⟨origin, ⟨i, hi, -, rfl⟩ | ⟨i, hi, -, rfl⟩⟩
    · exact .inl hi
    · exact .inr hi
  · rintro (hi | hi)
    · exact ⟨.first, .inl ⟨item, hi, rfl, rfl⟩⟩
    · exact ⟨.second, .inr ⟨item, hi, rfl, rfl⟩⟩

variable {item : SignedEventSetOrigin × ι}

lemma mem_acceptedOf :
    item ∈ acceptedOf validate items ↔ item ∈ items ∧ validate item.1 item.2 = .ok () := by
  rw [acceptedOf, mem_filter]
  cases validate item.1 item.2 <;> simp [Except.isOk, Except.toBool]

def groupOf (validate : SignedEventSetOrigin → ι → Except SignedEventSetRejection Unit)
    (eventIdOf : ι → SemanticEventId) (first second : List ι) (eventId : SemanticEventId) :
    List (SignedEventSetOrigin × ι) :=
  (acceptedOf validate (itemsOf first second)).filter fun item => eventIdOf item.2 = eventId

lemma mem_groupOf : item ∈ groupOf validate eventIdOf first second eventId ↔
      item ∈ itemsOf first second ∧ validate item.1 item.2 = .ok () ∧
        eventIdOf item.2 = eventId := by
  rw [groupOf, mem_filter, mem_acceptedOf, and_assoc, decide_eq_true_iff]

lemma mem_groupReports :
    report ∈ groupReports validate eventIdOf mergeGroup (itemsOf first second) ↔
      ∃ eventId, (∃ item, item ∈ groupOf validate eventIdOf first second eventId) ∧
        mergeGroup eventId (groupOf validate eventIdOf first second eventId) = report := by
  rw [groupReports, mem_map]
  constructor
  · rintro ⟨⟨eventId, group⟩, hgroup, rfl⟩
    obtain ⟨⟨item, hitem, rfl⟩, rfl⟩ := mem_groups.mp hgroup
    exact ⟨_, ⟨item, mem_filter.mpr ⟨hitem, decide_eq_true rfl⟩⟩, rfl⟩
  · rintro ⟨eventId, ⟨item, hitem⟩, rfl⟩
    obtain ⟨haccepted, hid⟩ := mem_filter.mp hitem
    exact ⟨(eventId, _), mem_groups.mpr ⟨⟨item, haccepted, of_decide_eq_true hid⟩, rfl⟩, rfl⟩

/-- The merged events come from the groups, one for each event id that is present. -/
lemma mem_merged : m ∈ (mergeItems validate eventIdOf mergeGroup first second).merged ↔
      ∃ eventId, (∃ item, item ∈ groupOf validate eventIdOf first second eventId) ∧
        (mergeGroup eventId (groupOf validate eventIdOf first second eventId)).merged = some m := by
  simp only [mergeItems, mem_filterMap, mem_groupReports]
  constructor
  · rintro ⟨report, ⟨eventId, hsome, rfl⟩, hm⟩
    exact ⟨eventId, hsome, hm⟩
  · rintro ⟨eventId, hsome, hm⟩
    exact ⟨_, ⟨eventId, hsome, rfl⟩, hm⟩

lemma mem_conflicts :
    conflict ∈ (mergeItems validate eventIdOf mergeGroup first second).conflicts ↔
      ∃ eventId, (∃ item, item ∈ groupOf validate eventIdOf first second eventId) ∧ conflict ∈
          (mergeGroup eventId (groupOf validate eventIdOf first second eventId)).conflicts := by
  simp only [mergeItems, mem_sortByKey, mem_flatMap, mem_groupReports]
  constructor
  · rintro ⟨report, ⟨eventId, hsome, rfl⟩, hc⟩
    exact ⟨eventId, hsome, hc⟩
  · rintro ⟨eventId, hsome, hc⟩
    exact ⟨_, ⟨eventId, hsome, rfl⟩, hc⟩

lemma mem_rejections (hitem : item ∈ itemsOf first second)
    (h : validate item.1 item.2 = .error rejection) :
    rejection ∈ (mergeItems validate eventIdOf mergeGroup first second).rejections := by
  simp only [mergeItems, mem_sortByKey, mem_append]
  refine .inl (mem_filterMap.mpr ⟨item, hitem, ?_⟩)
  rw [h]

/-- Each event is merged once. -/
lemma pairwise_merged {mergedId : μ → SemanticEventId}
    (hid : ∀ {eventId group m}, (mergeGroup eventId group).merged = some m → mergedId m = eventId) :
    (mergeItems validate eventIdOf mergeGroup first second).merged.Pairwise
      fun m m' => mergedId m < mergedId m' := by
  simp only [mergeItems, groupReports, filterMap_map]
  refine List.Pairwise.filterMap _ (fun g g' hlt m hm m' hm' => ?_) (pairwise_groups _ _)
  rw [hid hm, hid hm']
  exact hlt

end Items

/-! ## Implicated receipts -/

section Observations

variable {ι : Type} {admission : ι → AdmissionReceipt}
  {receiptConflict : ReceiptId → List (SignedEventSetOrigin × ι) → Option SignedEventSetConflict}
  {eventId : SemanticEventId} {items : List (SignedEventSetOrigin × ι)}

/-- A store triple occurs with the given receipt identity and with another one. -/
def StoreEquivocates (admission : ι → AdmissionReceipt)
    (items : List (SignedEventSetOrigin × ι)) (receiptId : ReceiptId) : Prop :=
  ∃ a ∈ items, ∃ b ∈ items, (admission a.2).receiptId = receiptId ∧
    storeTriple (admission a.2) = storeTriple (admission b.2) ∧
    (admission b.2).receiptId ≠ receiptId

variable {receiptId : ReceiptId} {conflict : SignedEventSetConflict}

lemma mem_receiptFindings :
    (receiptId, conflict) ∈ receiptFindings admission receiptConflict items ↔
      (∃ item ∈ items, (admission item.2).receiptId = receiptId) ∧
        receiptConflict receiptId (observationsOf admission items receiptId) = some conflict := by
  rw [receiptFindings, mem_filterMap]
  constructor
  · rintro ⟨⟨_, group⟩, hgroup, hfinding⟩
    obtain ⟨hsome, rfl⟩ := mem_groups.mp hgroup
    obtain ⟨_, hconflict, hpair⟩ := Option.map_eq_some_iff.mp hfinding
    obtain ⟨rfl, rfl⟩ := Prod.mk.inj hpair
    exact ⟨hsome, hconflict⟩
  · rintro ⟨hsome, hconflict⟩
    exact ⟨(receiptId, _), mem_groups.mpr ⟨hsome, rfl⟩,
      Option.map_eq_some_iff.mpr ⟨conflict, hconflict, rfl⟩⟩

lemma mem_storeFindings
    (h : (receiptIds, conflict) ∈ storeFindings admission eventId items) :
    ∀ item ∈ items, (admission item.2).receiptId ∈ receiptIds →
      ⟨item.1, (admission item.2).receiptId⟩ ∈ conflict.occurrences := by
  obtain ⟨group, -, hfinding⟩ := mem_filterMap.mp h
  simp only at hfinding
  split_ifs at hfinding
  obtain ⟨rfl, rfl⟩ := Prod.mk.inj (Option.some.inj hfinding)
  intro item hitem hreceipt
  simp only [SignedEventSetConflict.occurrences, mem_ascending, mem_flatMap]
  refine ⟨_, mem_ascending.mp hreceipt, mem_map.mpr ⟨item, ?_, rfl⟩⟩
  exact mem_filter.mpr ⟨hitem, decide_eq_true rfl⟩

/-- An occurrence of a finding of the store concerns one of the receipts the finding names. -/
lemma receiptId_mem_of_storeFinding
    (h : (receiptIds, conflict) ∈ storeFindings admission eventId items)
    (ho : o ∈ conflict.occurrences) : o.receiptId ∈ receiptIds := by
  obtain ⟨group, -, hfinding⟩ := mem_filterMap.mp h
  simp only at hfinding
  split_ifs at hfinding
  obtain ⟨rfl, rfl⟩ := Prod.mk.inj (Option.some.inj hfinding)
  simp only [SignedEventSetConflict.occurrences, mem_ascending, mem_flatMap] at ho
  obtain ⟨receiptId, hreceipt, ho⟩ := ho
  obtain ⟨-, -, rfl⟩ := mem_map.mp ho
  exact mem_ascending.mpr hreceipt

/-- A receipt is found at fault with its store exactly when the store equivocates on it. -/
lemma mem_flatMap_storeFindings :
    (∃ finding ∈ storeFindings admission eventId items, receiptId ∈ finding.1) ↔
      StoreEquivocates admission items receiptId := by
  constructor
  · rintro ⟨⟨receiptIds, conflict⟩, hfinding, hreceipt⟩
    obtain ⟨⟨triple, group⟩, hgroup, hfinding⟩ := mem_filterMap.mp hfinding
    obtain ⟨-, rfl⟩ := mem_groups.mp hgroup
    simp only at hfinding
    split_ifs at hfinding with hlength
    obtain ⟨rfl, -⟩ := Prod.mk.inj (Option.some.inj hfinding)
    rw [mem_ascending, mem_map] at hreceipt
    obtain ⟨a, ha, hareceipt⟩ := hreceipt
    -- More than one identity is left, so one of them is another one.
    obtain ⟨x, hx, y, hy, hxy⟩ := one_lt_length_ascending.mp hlength
    obtain ⟨z, hz, hne⟩ : ∃ z ∈ (items.filter fun item =>
        storeTriple (admission item.2) = triple).map fun item => (admission item.2).receiptId,
        z ≠ receiptId := by
      by_cases hxr : x = receiptId
      · exact ⟨y, hy, fun hyr => hxy (hxr.trans hyr.symm)⟩
      · exact ⟨x, hx, hxr⟩
    obtain ⟨b, hb, rfl⟩ := mem_map.mp hz
    rw [mem_filter, decide_eq_true_iff] at ha hb
    exact ⟨a, ha.1, b, hb.1, hareceipt, ha.2.trans hb.2.symm, hne⟩
  · rintro ⟨a, ha, b, hb, rfl, htriple, hne⟩
    have hamem : a ∈ items.filter fun item =>
        storeTriple (admission item.2) = storeTriple (admission a.2) :=
      mem_filter.mpr ⟨ha, decide_eq_true rfl⟩
    have hbmem : b ∈ items.filter fun item =>
        storeTriple (admission item.2) = storeTriple (admission a.2) :=
      mem_filter.mpr ⟨hb, decide_eq_true htriple.symm⟩
    have hlength := one_lt_length_ascending.mpr
      ⟨_, mem_map_of_mem (f := fun item => (admission item.2).receiptId) hamem, _,
        mem_map_of_mem (f := fun item => (admission item.2).receiptId) hbmem, hne.symm⟩
    refine ⟨_, mem_filterMap.mpr
      ⟨(storeTriple (admission a.2), _), mem_groups.mpr ⟨⟨a, ha, rfl⟩, rfl⟩, if_pos hlength⟩, ?_⟩
    exact mem_ascending.mpr (mem_map_of_mem (f := fun item => (admission item.2).receiptId) hamem)

lemma mem_implicatedOf : receiptId ∈ implicatedOf admission receiptConflict eventId items ↔
      ((∃ item ∈ items, (admission item.2).receiptId = receiptId) ∧
        (receiptConflict receiptId (observationsOf admission items receiptId)).isSome) ∨
      StoreEquivocates admission items receiptId := by
  rw [implicatedOf, mem_append, mem_flatMap, mem_flatMap_storeFindings, mem_map]
  refine or_congr_left ⟨?_, ?_⟩
  · rintro ⟨⟨_, conflict⟩, hfinding, rfl⟩
    obtain ⟨hsome, hconflict⟩ := mem_receiptFindings.mp hfinding
    exact ⟨hsome, by simp [hconflict]⟩
  · rintro ⟨hsome, hconflict⟩
    obtain ⟨conflict, hconflict⟩ := Option.isSome_iff_exists.mp hconflict
    exact ⟨(receiptId, conflict), mem_receiptFindings.mpr ⟨hsome, hconflict⟩, rfl⟩

lemma exists_conflict_of_implicated (hoccurrences : ∀ {receiptId observations conflict},
      receiptConflict receiptId observations = some conflict →
        conflict.occurrences = occurrencesOf receiptId observations) (hitem : item ∈ items)
    (h : (admission item.2).receiptId ∈ implicatedOf admission receiptConflict eventId items) :
    ∃ conflict ∈ conflictsOf admission receiptConflict eventId items,
      ⟨item.1, (admission item.2).receiptId⟩ ∈ conflict.occurrences := by
  rw [implicatedOf, mem_append, mem_map, mem_flatMap] at h
  rcases h with ⟨⟨receiptId, conflict⟩, hfinding, hreceipt⟩ |
    ⟨⟨receiptIds, conflict⟩, hfinding, hmem⟩
  · refine ⟨conflict, mem_append_left _ (mem_map.mpr ⟨_, hfinding, rfl⟩), ?_⟩
    obtain rfl : receiptId = (admission item.2).receiptId := hreceipt
    rw [hoccurrences (mem_receiptFindings.mp hfinding).2, occurrencesOf, mem_ascending]
    refine mem_map.mpr ⟨item, ?_, rfl⟩
    exact mem_filter.mpr ⟨hitem, decide_eq_true rfl⟩
  · exact ⟨conflict, mem_append_right _ (mem_map.mpr ⟨_, hfinding, rfl⟩),
      mem_storeFindings hfinding item hitem hmem⟩

end Observations

def SignedEventSetItem.ValidFor (item : SignedEventSetItem) (x : SemanticEventId) : Prop :=
  validateItem .first item = .ok () ∧ item.event.eventId = x

/-- Two valid items for `x` carry the receipt identity with different contents, or its store occurs
with two receipt identities among the valid items for `x`. -/
def Implicated (first second : List SignedEventSetItem) (x : SemanticEventId)
    (receiptId : ReceiptId) : Prop :=
  ∃ i ∈ first ++ second, ∃ j ∈ first ++ second, i.ValidFor x ∧ j.ValidFor x ∧
    i.admission.receiptId = receiptId ∧
    ((j.admission.receiptId = receiptId ∧ i.admission ≠ j.admission) ∨
      (storeTriple i.admission = storeTriple j.admission ∧ j.admission.receiptId ≠ receiptId))

section Signed

variable {first second : List SignedEventSetItem} {x : SemanticEventId}

lemma validateItem_eq_ok : validateItem origin item = .ok () ↔
      semanticEventId item.event.canonicalUnsignedEvent = item.event.eventId ∧
      item.admission.eventId = item.event.eventId ∧ item.admission.logSeq = item.event.logSeq ∧
      deriveReceiptId item.admission = item.admission.receiptId := by
  simp [validateItem, validateEventAndAdmission, bind_eq_ok, refuseIf_eq_ok]

abbrev signedGroup (first second : List SignedEventSetItem) (x : SemanticEventId) :
    List (SignedEventSetOrigin × SignedEventSetItem) :=
  groupOf validateItem (fun item => item.event.eventId) first second x

lemma exists_mem_signedGroup : (∃ origin, (origin, item) ∈ signedGroup first second x) ↔
      item ∈ first ++ second ∧ item.ValidFor x := by
  have hvalid (origin : SignedEventSetOrigin) :
      validateItem origin item = .ok () ↔ validateItem .first item = .ok () := by
    rw [validateItem_eq_ok, validateItem_eq_ok]
  simp only [mem_groupOf, hvalid, exists_and_right, exists_mem_itemsOf, SignedEventSetItem.ValidFor]

variable {receiptId : ReceiptId}

lemma isSome_contentConflict : (contentConflict receiptId observations).isSome ↔
      ∃ a ∈ observations, ∃ b ∈ observations, a.2.admission ≠ b.2.admission := by
  cases observations with
  | nil => simp [contentConflict]
  | cons =>
    rw [← exists_ne_head (f := fun o : SignedEventSetOrigin × SignedEventSetItem =>
      o.2.admission), contentConflict]
    split_ifs with h
    · exact iff_of_true rfl h
    · exact iff_of_false (by simp) h

lemma occurrences_contentConflict (h : contentConflict receiptId observations = some conflict) :
    conflict.occurrences = occurrencesOf receiptId observations := by
  unfold contentConflict at h
  split at h
  · simp at h
  · split_ifs at h
    obtain rfl := Option.some.inj h
    rfl

lemma mem_implicatedOf_signedGroup : receiptId ∈ implicatedOf admission contentConflict x
      (signedGroup first second x) ↔ Implicated first second x receiptId := by
  rw [mem_implicatedOf, isSome_contentConflict]
  constructor
  · rintro (⟨-, a, ha, b, hb, hne⟩ | ⟨a, ha, b, hb, hid, hstore, hne⟩)
    · obtain ⟨ha, haid⟩ := mem_filter.mp ha
      obtain ⟨hb, hbid⟩ := mem_filter.mp hb
      obtain ⟨hamem, havalid⟩ := exists_mem_signedGroup.mp ⟨a.1, ha⟩
      obtain ⟨hbmem, hbvalid⟩ := exists_mem_signedGroup.mp ⟨b.1, hb⟩
      exact ⟨a.2, hamem, b.2, hbmem, havalid, hbvalid, of_decide_eq_true haid,
        .inl ⟨of_decide_eq_true hbid, hne⟩⟩
    · obtain ⟨hamem, havalid⟩ := exists_mem_signedGroup.mp ⟨a.1, ha⟩
      obtain ⟨hbmem, hbvalid⟩ := exists_mem_signedGroup.mp ⟨b.1, hb⟩
      exact ⟨a.2, hamem, b.2, hbmem, havalid, hbvalid, hid, .inr ⟨hstore, hne⟩⟩
  · rintro ⟨i, hi, j, hj, hivalid, hjvalid, hid, hcase⟩
    obtain ⟨o, hi⟩ := exists_mem_signedGroup.mpr ⟨hi, hivalid⟩
    obtain ⟨o', hj⟩ := exists_mem_signedGroup.mpr ⟨hj, hjvalid⟩
    rcases hcase with ⟨hid', hne⟩ | ⟨hstore, hne⟩
    · exact .inl ⟨⟨_, hi, hid⟩, _, mem_filter.mpr ⟨hi, decide_eq_true hid⟩, _,
        mem_filter.mpr ⟨hj, decide_eq_true hid'⟩, hne⟩
    · exact .inr ⟨_, hi, _, hj, hid, hstore, hne⟩

/-! ### One event -/

lemma eventId_of_mergeEventGroup (h : (mergeEventGroup x group).merged = some m) :
    m.eventId = x := by
  unfold mergeEventGroup at h
  split at h
  · simp at h
  · split_ifs at h
    split at h
    · simp at h
    · obtain rfl := Option.some.inj h
      rfl

lemma mergeEventGroup_of_agree
    (hsome : ∃ item, item ∈ group)
    (hagree : ∀ a ∈ group, ∀ b ∈ group,
      a.2.event.canonicalUnsignedEvent = b.2.event.canonicalUnsignedEvent) :
    (mergeEventGroup x group).conflicts =
        conflictsOf admission contentConflict x group ∧
      (mergeEventGroup x group).merged.map MergedSignedEvent.admissions =
        if survivorsOf admission contentConflict x group = [] then none
        else some ((survivorsOf admission contentConflict x group).map
          fun item => item.2.admission) := by
  obtain ⟨item, hitem⟩ := hsome
  cases group with
  | nil => simp at hitem
  | cons reference rest =>
    have hsame : ¬ ∃ item ∈ reference :: rest,
        item.2.event.canonicalUnsignedEvent ≠ reference.2.event.canonicalUnsignedEvent := by
      rintro ⟨a, ha, hne⟩
      exact hne (hagree a ha reference mem_cons_self)
    simp only [mergeEventGroup, if_neg hsame]
    split
    · next hnone =>
      rw [if_pos hnone]
      exact ⟨rfl, rfl⟩
    · next hsurvive =>
      rw [if_neg hsurvive]
      exact ⟨rfl, rfl⟩

lemma admission_eq_of_not_implicated
    (ha : a ∈ signedGroup first second x) (hb : b ∈ signedGroup first second x)
    (hid : a.2.admission.receiptId = b.2.admission.receiptId)
    (h : ¬ Implicated first second x a.2.admission.receiptId) : a.2.admission = b.2.admission := by
  by_contra hne
  obtain ⟨hamem, havalid⟩ := exists_mem_signedGroup.mp ⟨a.1, ha⟩
  obtain ⟨hbmem, hbvalid⟩ := exists_mem_signedGroup.mp ⟨b.1, hb⟩
  exact h ⟨a.2, hamem, b.2, hbmem, havalid, hbvalid, rfl, .inl ⟨hid.symm, hne⟩⟩

abbrev survivingAdmissions (first second : List SignedEventSetItem) (x : SemanticEventId) :
    List AdmissionReceipt :=
  (survivorsOf SignedEventSetItem.admission contentConflict x (signedGroup first second x)).map
    fun item => item.2.admission

/-- What survives is valid and not implicated, from either side. -/
lemma mem_survivingAdmissions : receipt ∈ survivingAdmissions first second x ↔
      ∃ item ∈ first ++ second, item.ValidFor x ∧
        ¬ Implicated first second x item.admission.receiptId ∧ item.admission = receipt := by
  rw [survivingAdmissions, survivorsOf, mem_map_latest]
  · simp only [mem_filter, mem_implicatedOf_signedGroup, decide_eq_true_eq]
    constructor
    · rintro ⟨item, ⟨hitem, hfree⟩, rfl⟩
      obtain ⟨hmem, hvalid⟩ := exists_mem_signedGroup.mp ⟨item.1, hitem⟩
      exact ⟨item.2, hmem, hvalid, hfree, rfl⟩
    · rintro ⟨item, hmem, hvalid, hfree, rfl⟩
      obtain ⟨origin, hitem⟩ := exists_mem_signedGroup.mpr ⟨hmem, hvalid⟩
      exact ⟨(origin, item), ⟨hitem, hfree⟩, rfl⟩
  · intro a ha b hb hid
    simp only [mem_filter, mem_implicatedOf_signedGroup, decide_eq_true_eq] at ha hb
    exact admission_eq_of_not_implicated ha.1 hb.1 hid ha.2

lemma pairwise_survivingAdmissions :
    (survivingAdmissions first second x).Pairwise fun r r' => r.receiptId < r'.receiptId :=
  pairwise_map.mpr (pairwise_latest _ _)

/-- No two contents of the given items have the same event identity. -/
def CollisionFree (items : List SignedEventSetItem) : Prop :=
  Set.InjOn semanticEventId {bytes | ∃ item ∈ items, item.event.canonicalUnsignedEvent = bytes}

lemma canonical_eq_of_collisionFree (hfree : CollisionFree (first ++ second))
    (ha : a ∈ signedGroup first second x)
    (hb : b ∈ signedGroup first second x) :
    a.2.event.canonicalUnsignedEvent = b.2.event.canonicalUnsignedEvent := by
  obtain ⟨hamem, havalid, haid⟩ := exists_mem_signedGroup.mp ⟨a.1, ha⟩
  obtain ⟨hbmem, hbvalid, hbid⟩ := exists_mem_signedGroup.mp ⟨b.1, hb⟩
  have hderived : semanticEventId a.2.event.canonicalUnsignedEvent =
      semanticEventId b.2.event.canonicalUnsignedEvent := by
    rw [(validateItem_eq_ok.mp havalid).1, (validateItem_eq_ok.mp hbvalid).1, haid, hbid]
  exact hfree ⟨a.2, hamem, rfl⟩ ⟨b.2, hbmem, rfl⟩ hderived

lemma mergeEventGroup_signedGroup (hfree : CollisionFree (first ++ second))
    (hsome : ∃ item, item ∈ signedGroup first second x) :
    (mergeEventGroup x (signedGroup first second x)).conflicts =
        conflictsOf admission contentConflict x (signedGroup first second x) ∧
      (mergeEventGroup x (signedGroup first second x)).merged.map MergedSignedEvent.admissions =
        if survivingAdmissions first second x = [] then none
        else some (survivingAdmissions first second x) := by
  have hspec := mergeEventGroup_of_agree (x := x) hsome
    fun a ha b hb => canonical_eq_of_collisionFree hfree ha hb
  simpa only [survivingAdmissions, map_eq_nil_iff] using hspec

lemma mem_merged_signed (hfree : CollisionFree (first ++ second))
    (h : m ∈ (mergeSignedEventSets first second).merged) :
    m.admissions = survivingAdmissions first second m.eventId ∧
      survivingAdmissions first second m.eventId ≠ [] := by
  obtain ⟨x, hsome, hm⟩ := mem_merged.mp h
  obtain rfl := eventId_of_mergeEventGroup hm
  have hspec := (mergeEventGroup_signedGroup hfree hsome).2
  rw [hm, Option.map_some] at hspec
  split_ifs at hspec with hnone
  exact ⟨Option.some.inj hspec, hnone⟩

/-- An event is merged exactly when one of its admissions survives. -/
lemma exists_merged_iff (hfree : CollisionFree (first ++ second)) :
    (∃ m ∈ (mergeSignedEventSets first second).merged, m.eventId = x) ↔
      ∃ receipt, receipt ∈ survivingAdmissions first second x := by
  constructor
  · rintro ⟨m, hm, rfl⟩
    exact exists_mem_of_ne_nil _ (mem_merged_signed hfree hm).2
  · rintro ⟨receipt, hreceipt⟩
    obtain ⟨item, hmem, hvalid, -, -⟩ := mem_survivingAdmissions.mp hreceipt
    obtain ⟨origin, hitem⟩ := exists_mem_signedGroup.mpr ⟨hmem, hvalid⟩
    have hspec := (mergeEventGroup_signedGroup hfree ⟨_, hitem⟩).2
    rw [if_neg (ne_nil_of_mem hreceipt)] at hspec
    obtain ⟨m, hm, -⟩ := Option.map_eq_some_iff.mp hspec
    exact ⟨m, mem_merged.mpr ⟨x, ⟨_, hitem⟩, hm⟩, eventId_of_mergeEventGroup hm⟩

lemma exists_conflict_signed (hfree : CollisionFree (first ++ second))
    (hitem : item ∈ signedGroup first second x)
    (h : Implicated first second x item.2.admission.receiptId) :
    ∃ conflict ∈ (mergeSignedEventSets first second).conflicts,
      ⟨item.1, item.2.admission.receiptId⟩ ∈ conflict.occurrences := by
  obtain ⟨conflict, hconflict, hnamed⟩ := exists_conflict_of_implicated
    occurrences_contentConflict hitem (mem_implicatedOf_signedGroup.mpr h)
  refine ⟨conflict, mem_conflicts.mpr ⟨x, ⟨item, hitem⟩, ?_⟩, hnamed⟩
  rw [(mergeEventGroup_signedGroup hfree ⟨item, hitem⟩).1]
  exact hconflict

/-- A merge is the union of the valid items without the implicated receipts, in the order of the
events and of the receipts, and every other item is rejected or named by a conflict. -/
theorem merge_signed_event_sets_union (hfree : CollisionFree (first ++ second)) :
    (mergeSignedEventSets first second).merged.Pairwise (fun m m' => m.eventId < m'.eventId) ∧
    (∀ x, (∃ m ∈ (mergeSignedEventSets first second).merged, m.eventId = x) ↔
      ∃ item ∈ first ++ second, item.ValidFor x ∧
        ¬ Implicated first second x item.admission.receiptId) ∧
    (∀ m ∈ (mergeSignedEventSets first second).merged,
      m.admissions.Pairwise (fun r r' => r.receiptId < r'.receiptId) ∧
      ∀ receipt, receipt ∈ m.admissions ↔ ∃ item ∈ first ++ second, item.ValidFor m.eventId ∧
        ¬ Implicated first second m.eventId item.admission.receiptId ∧ item.admission = receipt) ∧
    ∀ origin item, (origin, item) ∈ itemsOf first second →
      (∀ rejection, validateItem origin item = .error rejection →
        rejection ∈ (mergeSignedEventSets first second).rejections) ∧
      (validateItem origin item = .ok () → (∃ m ∈ (mergeSignedEventSets first second).merged,
          m.eventId = item.event.eventId ∧ item.admission ∈ m.admissions) ∨
        ∃ conflict ∈ (mergeSignedEventSets first second).conflicts,
          ⟨origin, item.admission.receiptId⟩ ∈ conflict.occurrences) := by
  refine ⟨pairwise_merged eventId_of_mergeEventGroup, fun x => ?_, fun m hm => ?_,
    fun origin item hitem => ⟨fun rejection hrejection => mem_rejections hitem hrejection,
      fun hvalid => ?_⟩⟩
  · rw [exists_merged_iff hfree]
    simp only [mem_survivingAdmissions]
    constructor
    · rintro ⟨receipt, item, hmem, hvalid, hfree, -⟩
      exact ⟨item, hmem, hvalid, hfree⟩
    · rintro ⟨item, hmem, hvalid, hfree⟩
      exact ⟨item.admission, item, hmem, hvalid, hfree, rfl⟩
  · rw [(mem_merged_signed hfree hm).1]
    exact ⟨pairwise_survivingAdmissions, fun receipt => mem_survivingAdmissions⟩
  · have hgroup : (origin, item) ∈ signedGroup first second item.event.eventId :=
      mem_groupOf.mpr ⟨hitem, hvalid, rfl⟩
    by_cases himplicated :
        Implicated first second item.event.eventId item.admission.receiptId
    · exact .inr (exists_conflict_signed hfree hgroup himplicated)
    · obtain ⟨hmem, hfor⟩ := exists_mem_signedGroup.mp ⟨origin, hgroup⟩
      have hsurvives : item.admission ∈ survivingAdmissions first second item.event.eventId :=
        mem_survivingAdmissions.mpr ⟨item, hmem, hfor, himplicated, rfl⟩
      obtain ⟨m, hm, hid⟩ := (exists_merged_iff hfree).mpr ⟨_, hsurvives⟩
      refine .inl ⟨m, hm, hid, ?_⟩
      rw [(mem_merged_signed hfree hm).1, hid]
      exact hsurvives

end Signed

namespace Sample

def admission (content : List UInt8) (store : PrincipalId) (storeSignature : Ed25519Signature) :
    AdmissionReceipt :=
  AdmissionReceipt.withDerivedId {
    receiptId := 0
    eventId := semanticEventId content
    logSeq := 1
    admittedAtMs := 10
    effectiveValidUntilMs := none
    capturedInputs := []
    effectiveTaint := .empty
    authzPolicyDigest := 0
    durability := .durable
    storePrincipal := store
    storeControlDomain := 1
    storeKeyId := 1
    storeSignature := storeSignature }

def event (content : List UInt8) : SemanticEventRecord where
  eventId := semanticEventId content
  canonicalUnsignedEvent := content
  scope := .task 1
  issuer := 1
  controlDomain := 1
  keyId := 1
  payloadIdentity := .structural
  logSeq := 1

def item (content : List UInt8) (store : PrincipalId) (storeSignature : Ed25519Signature) :
    SignedEventSetItem :=
  ⟨event content, admission content store storeSignature⟩

lemma validateItem_item (content : List UInt8) (store : PrincipalId)
    (storeSignature : Ed25519Signature) :
    validateItem .first (item content store storeSignature) = .ok () := by
  refine validateItem_eq_ok.mpr ⟨?_, ?_, ?_, AdmissionReceipt.deriveReceiptId_withDerivedId _⟩
  all_goals simp only [item, event, admission, AdmissionReceipt.withDerivedId]

/-- Two stores admit one event, and one receipt of another event has two contents. -/
def first : List SignedEventSetItem := [item [1] 1 1, item [2] 1 1]

def second : List SignedEventSetItem := [item [1] 2 1, item [2] 1 2]

lemma event_ne : semanticEventId [2] ≠ semanticEventId [1] := by decide +kernel

lemma receipt_ne : (item [1] 2 1).admission.receiptId ≠ (item [1] 1 1).admission.receiptId := by
  decide +kernel

lemma mem_cases (h : i ∈ first ++ second) :
    i = item [1] 1 1 ∨ i = item [2] 1 1 ∨ i = item [1] 2 1 ∨ i = item [2] 1 2 := by
  simpa [first, second] using h

lemma collisionFree : CollisionFree (first ++ second) := by
  have hcontent {bytes : List UInt8}
      (h : ∃ item ∈ first ++ second, item.event.canonicalUnsignedEvent = bytes) :
      bytes = [1] ∨ bytes = [2] := by
    obtain ⟨i, hi, rfl⟩ := h
    rcases mem_cases hi with rfl | rfl | rfl | rfl
    exacts [.inl rfl, .inr rfl, .inl rfl, .inr rfl]
  intro b hb c hc hid
  rcases hcontent hb with rfl | rfl <;> rcases hcontent hc with rfl | rfl
  · rfl
  · exact absurd hid.symm event_ne
  · exact absurd hid event_ne
  · rfl

lemma not_implicated :
    ¬ Implicated first second (semanticEventId [1]) (item [1] 1 1).admission.receiptId := by
  rintro ⟨i, hi, j, hj, ⟨-, hix⟩, ⟨-, hjx⟩, hid, hcase⟩
  rcases mem_cases hi with rfl | rfl | rfl | rfl
  · rcases mem_cases hj with rfl | rfl | rfl | rfl
    · rcases hcase with ⟨-, hne⟩ | ⟨-, hne⟩
      · exact hne rfl
      · exact hne rfl
    · exact event_ne hjx
    · -- The other store has a triple and a receipt of its own.
      rcases hcase with ⟨hsame, -⟩ | ⟨hstore, -⟩
      · exact receipt_ne hsame
      · exact absurd (congrArg (fun t => (ofLex t).1) hstore) (by decide)
    · exact event_ne hjx
  · exact event_ne hix
  · exact receipt_ne hid
  · exact event_ne hix

end Sample

theorem merge_signed_event_sets_union_two_stores : CollisionFree (Sample.first ++ Sample.second) ∧
      ∃ m ∈ (mergeSignedEventSets Sample.first Sample.second).merged,
        m.eventId = semanticEventId [1] := by
  refine ⟨Sample.collisionFree, ?_⟩
  apply ((merge_signed_event_sets_union Sample.collisionFree).2.1 _).mpr
  exact ⟨Sample.item [1] 1 1, mem_cons_self, ⟨Sample.validateItem_item _ _ _, rfl⟩,
    Sample.not_implicated⟩

end Nlos.Semantic
