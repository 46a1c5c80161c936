import Nlos.Semantic.MergeUnion

/-!
# The cross-domain merge depends on the set of items only

A group takes its first item as the representative of the event and keeps the last observation under
each receipt identity.
-/

namespace Nlos.Semantic

open Lib Capability List CrossDomainEventItem

variable {receiptId : ReceiptId}

/-- The two groups hold the same items, whatever sets these come from. -/
def SameItems {ι : Type} (g g' : List (SignedEventSetOrigin × ι)) : Prop :=
  ∀ item, (∃ origin, (origin, item) ∈ g) ↔ ∃ origin, (origin, item) ∈ g'

namespace SameItems

variable {ι : Type} {g g' : List (SignedEventSetOrigin × ι)}

lemma symm (h : SameItems g g') : SameItems g' g := fun item => (h item).symm

lemma exists_mem (h : SameItems g g') (ha : a ∈ g) : ∃ b ∈ g', b.2 = a.2 := by
  obtain ⟨origin, hb⟩ := (h a.2).mp ⟨a.1, ha⟩
  exact ⟨(origin, a.2), hb, rfl⟩

lemma exists_iff (h : SameItems g g') {p : ι → Prop} : (∃ a ∈ g, p a.2) ↔ ∃ a ∈ g', p a.2 := by
  have himp {l l' : List (SignedEventSetOrigin × ι)} (h : SameItems l l') :
      (∃ a ∈ l, p a.2) → ∃ a ∈ l', p a.2 := by
    rintro ⟨a, ha, hp⟩
    obtain ⟨b, hb, hba⟩ := h.exists_mem ha
    exact ⟨b, hb, hba ▸ hp⟩
  exact ⟨himp h, himp h.symm⟩

lemma exists_pair_iff (h : SameItems g g') {p : ι → ι → Prop} :
    (∃ a ∈ g, ∃ b ∈ g, p a.2 b.2) ↔ ∃ a ∈ g', ∃ b ∈ g', p a.2 b.2 := by
  rw [h.exists_iff (p := fun i => ∃ b ∈ g, p i b.2)]
  simp only [h.exists_iff (p := p _)]

lemma filter (h : SameItems g g') {p q : ι → Bool} (hpq : ∀ i, p i = q i) :
    SameItems (g.filter fun a => p a.2) (g'.filter fun a => q a.2) := by
  intro item
  simp only [mem_filter, exists_and_right, hpq, h item]

lemma eq_nil_iff (h : SameItems g g') : g = [] ↔ g' = [] := by
  have himp {l l' : List (SignedEventSetOrigin × ι)} (h : SameItems l l') (hl : l = []) :
      l' = [] := by
    refine eq_nil_iff_forall_not_mem.mpr fun a ha => ?_
    obtain ⟨b, hb, -⟩ := h.symm.exists_mem ha
    rw [hl] at hb
    exact not_mem_nil hb
  exact ⟨himp h, himp h.symm⟩

end SameItems

section Implicated

variable {x : SemanticEventId} {g g' : List (SignedEventSetOrigin × CrossDomainEventItem)}

def CrossDomainEventItem.observed (item : CrossDomainEventItem) : AdmissionReceipt × Digest :=
  (item.admission, item.trustSnapshotDigest)

lemma isSome_crossDomainConflict :
    (crossDomainConflict receiptId observations).isSome ↔
      ∃ a ∈ observations, ∃ b ∈ observations, a.2.observed ≠ b.2.observed := by
  cases observations with
  | nil => simp [crossDomainConflict]
  | cons =>
    rw [← exists_ne_head (f := fun o : SignedEventSetOrigin × CrossDomainEventItem =>
      o.2.observed), crossDomainConflict]
    split_ifs with hcontent htrust
    · obtain ⟨a, ha, hne⟩ := hcontent
      exact iff_of_true rfl ⟨a, ha, fun h => hne (congrArg Prod.fst h)⟩
    · obtain ⟨a, ha, hne⟩ := htrust
      exact iff_of_true rfl ⟨a, ha, fun h => hne (congrArg Prod.snd h)⟩
    · refine iff_of_false (by simp) ?_
      rintro ⟨a, ha, hne⟩
      refine hne (Prod.ext ?_ ?_)
      · by_contra hdiffer
        exact hcontent ⟨a, ha, hdiffer⟩
      · by_contra hdiffer
        exact htrust ⟨a, ha, hdiffer⟩

lemma occurrences_crossDomainConflict
    (h : crossDomainConflict receiptId observations = some conflict) :
    conflict.occurrences = occurrencesOf receiptId observations := by
  unfold crossDomainConflict at h
  split at h
  · simp at h
  · split_ifs at h <;>
    · obtain rfl := Option.some.inj h
      rfl

abbrev implicatedIn (x : SemanticEventId)
    (g : List (SignedEventSetOrigin × CrossDomainEventItem)) : List ReceiptId :=
  implicatedOf CrossDomainEventItem.admission crossDomainConflict x g

/-- Who is implicated depends on the items of a group, not on where they came from. -/
lemma mem_implicatedIn_congr (h : SameItems g g') (receiptId : ReceiptId) :
    receiptId ∈ implicatedIn x g ↔ receiptId ∈ implicatedIn x g' := by
  have hobservations : SameItems (observationsOf admission g receiptId)
      (observationsOf admission g' receiptId) :=
    h.filter (p := fun i => i.admission.receiptId = receiptId) fun _ => rfl
  rw [implicatedIn, implicatedIn, mem_implicatedOf, mem_implicatedOf, isSome_crossDomainConflict,
    isSome_crossDomainConflict,
    hobservations.exists_pair_iff (p := fun i j => i.observed ≠ j.observed),
    h.exists_iff (p := fun i => i.admission.receiptId = receiptId)]
  refine or_congr_right (h.exists_pair_iff (p := fun i j => i.admission.receiptId = receiptId ∧
    storeTriple i.admission = storeTriple j.admission ∧ j.admission.receiptId ≠ receiptId))

abbrev survivorsIn (x : SemanticEventId) (g : List (SignedEventSetOrigin × CrossDomainEventItem)) :
    List (SignedEventSetOrigin × CrossDomainEventItem) :=
  survivorsOf CrossDomainEventItem.admission crossDomainConflict x g

lemma observed_eq_of_not_implicated
    (ha : a ∈ g) (hb : b ∈ g) (hid : a.2.admission.receiptId = b.2.admission.receiptId)
    (h : a.2.admission.receiptId ∉ implicatedIn x g) : a.2.observed = b.2.observed := by
  by_contra hne
  refine h (mem_implicatedOf.mpr (.inl ⟨⟨a, ha, rfl⟩, isSome_crossDomainConflict.mpr
    ⟨a, mem_filter.mpr ⟨ha, decide_eq_true rfl⟩, b,
      mem_filter.mpr ⟨hb, decide_eq_true hid.symm⟩, hne⟩⟩))

/-- So do the survivors, up to their origin. -/
lemma map_observed_survivorsIn (h : SameItems g g') :
    (survivorsIn x g).map (fun a => a.2.observed) =
      (survivorsIn x g').map (fun a => a.2.observed) := by
  have hagree (l : List (SignedEventSetOrigin × CrossDomainEventItem)) :
      ∀ a ∈ l.filter (fun a => a.2.admission.receiptId ∉ implicatedIn x l),
        ∀ b ∈ l.filter (fun a => a.2.admission.receiptId ∉ implicatedIn x l),
          a.2.admission.receiptId = b.2.admission.receiptId → a.2.observed = b.2.observed := by
    intro a ha b hb hid
    rw [mem_filter, decide_eq_true_iff] at ha hb
    exact observed_eq_of_not_implicated ha.1 hb.1 hid ha.2
  have hkept : SameItems (g.filter fun a => a.2.admission.receiptId ∉ implicatedIn x g)
      (g'.filter fun a => a.2.admission.receiptId ∉ implicatedIn x g') :=
    h.filter (p := fun i => i.admission.receiptId ∉ implicatedIn x g)
      (q := fun i => i.admission.receiptId ∉ implicatedIn x g') fun i => by
        rw [decide_eq_decide, mem_implicatedIn_congr h]
  exact map_latest_congr (fun r : AdmissionReceipt × Digest => r.1.receiptId) (fun _ => rfl)
    (hagree g) (hagree g')
    fun r => hkept.exists_iff (p := fun i => i.observed = r)

lemma exists_conflict_iff : (∃ conflict ∈ conflictsOf admission crossDomainConflict x g,
      ∃ o ∈ conflict.occurrences, o.receiptId = receiptId) ↔ receiptId ∈ implicatedIn x g := by
  constructor
  · rintro ⟨conflict, hconflict, o, ho, rfl⟩
    rw [implicatedIn, implicatedOf, mem_append, mem_map, mem_flatMap]
    rw [conflictsOf, mem_append, mem_map, mem_map] at hconflict
    rcases hconflict with ⟨⟨receiptId, _⟩, hfinding, rfl⟩ | ⟨⟨receiptIds, _⟩, hfinding, rfl⟩
    · rw [occurrences_crossDomainConflict (mem_receiptFindings.mp hfinding).2, occurrencesOf,
        mem_ascending, mem_map] at ho
      obtain ⟨-, -, rfl⟩ := ho
      exact .inl ⟨_, hfinding, rfl⟩
    · exact .inr ⟨_, hfinding, receiptId_mem_of_storeFinding hfinding ho⟩
  · intro h
    have hitem : ∃ item ∈ g, item.2.admission.receiptId = receiptId := by
      rcases mem_implicatedOf.mp h with ⟨hitem, -⟩ | ⟨a, ha, -, -, hid, -⟩
      · exact hitem
      · exact ⟨a, ha, hid⟩
    obtain ⟨item, hitem, rfl⟩ := hitem
    obtain ⟨conflict, hconflict, ho⟩ :=
      exists_conflict_of_implicated occurrences_crossDomainConflict hitem h
    exact ⟨conflict, hconflict, _, ho, rfl⟩

end Implicated

/-! ## One event -/

section Group

variable {x : SemanticEventId} {g g' : List (SignedEventSetOrigin × CrossDomainEventItem)}

abbrev EventFields :=
  CapabilityTarget × PrincipalId × ControlDomainId × KeyId × SemanticPayloadIdentity

def SemanticEventRecord.fields (event : SemanticEventRecord) : EventFields :=
  (event.scope, event.issuer, event.controlDomain, event.keyId, event.payloadIdentity)

def FieldsEncoded (items : List CrossDomainEventItem) : Prop :=
  ∃ decode : List UInt8 → EventFields, ∀ item ∈ items,
    item.event.fields = decode item.event.canonicalUnsignedEvent

def ContentsDiffer (g : List (SignedEventSetOrigin × CrossDomainEventItem)) : Prop :=
  ∃ a ∈ g, ∃ b ∈ g, a.2.event.canonicalUnsignedEvent ≠ b.2.event.canonicalUnsignedEvent

def SignaturesDiffer (g : List (SignedEventSetOrigin × CrossDomainEventItem)) : Prop :=
  ∃ a ∈ g, ∃ b ∈ g, a.2.producerSignature ≠ b.2.producerSignature

def mergedFrom (x : SemanticEventId) (representative : CrossDomainEventItem)
    (surviving : List (AdmissionReceipt × Digest)) : MergedCrossDomainEvent where
  eventId := x
  canonicalUnsignedEvent := representative.event.canonicalUnsignedEvent
  scope := representative.event.scope
  issuer := representative.event.issuer
  controlDomain := representative.event.controlDomain
  keyId := representative.event.keyId
  payloadIdentity := representative.event.payloadIdentity
  producerSignature := representative.producerSignature
  admissions := surviving.map Prod.fst
  auditRecords := surviving.map fun r =>
    ⟨representative.event.keyId, representative.producerSignature, r.1, r.2⟩

lemma mergeGroup_of_contentsDiffer (h : ContentsDiffer g) :
    (mergeCrossDomainEventGroup x g).merged = none ∧
      (mergeCrossDomainEventGroup x g).conflicts = [] := by
  cases g with
  | nil =>
    obtain ⟨a, ha, -⟩ := h
    simp at ha
  | cons =>
    have hdiffer := exists_ne_head (f := fun a : SignedEventSetOrigin × CrossDomainEventItem =>
      a.2.event.canonicalUnsignedEvent) |>.mpr h
    simp only [mergeCrossDomainEventGroup]
    rw [if_pos hdiffer]
    exact ⟨rfl, rfl⟩

lemma mergeGroup_of_signaturesDiffer (hcontents : ¬ ContentsDiffer g) (h : SignaturesDiffer g) :
    (mergeCrossDomainEventGroup x g).merged = none ∧
      (mergeCrossDomainEventGroup x g).conflicts = [.producerSignatureMismatch x
        (ascending (g.map fun item => ⟨item.1, item.2.admission.receiptId⟩))] := by
  cases g with
  | nil =>
    obtain ⟨a, ha, -⟩ := h
    simp at ha
  | cons =>
    have hagree := exists_ne_head (f := fun a : SignedEventSetOrigin × CrossDomainEventItem =>
      a.2.event.canonicalUnsignedEvent) |>.not.mpr hcontents
    have hdiffer := exists_ne_head (f := fun a : SignedEventSetOrigin × CrossDomainEventItem =>
      a.2.producerSignature) |>.mpr h
    simp only [mergeCrossDomainEventGroup]
    rw [if_neg hagree, if_pos hdiffer]
    exact ⟨rfl, rfl⟩

lemma mergeGroup_of_agree (hcontents : ¬ ContentsDiffer g) (hsignatures : ¬ SignaturesDiffer g)
    (hnonempty : g ≠ []) :
    (∃ representative ∈ g, (mergeCrossDomainEventGroup x g).merged =
      if (survivorsIn x g).map (fun a => a.2.observed) = [] then none
      else some (mergedFrom x representative.2 ((survivorsIn x g).map fun a => a.2.observed))) ∧
      (mergeCrossDomainEventGroup x g).conflicts =
        conflictsOf admission crossDomainConflict x g := by
  cases g with
  | nil => exact absurd rfl hnonempty
  | cons representative =>
    have hcontent := exists_ne_head (f := fun a : SignedEventSetOrigin × CrossDomainEventItem =>
      a.2.event.canonicalUnsignedEvent) |>.not.mpr hcontents
    have hsignature := exists_ne_head (f := fun a : SignedEventSetOrigin × CrossDomainEventItem =>
      a.2.producerSignature) |>.not.mpr hsignatures
    simp only [mergeCrossDomainEventGroup]
    rw [if_neg hcontent, if_neg hsignature]
    simp only [map_eq_nil_iff]
    split
    · next hnone => exact ⟨⟨representative, mem_cons_self, by rw [if_pos hnone]⟩, rfl⟩
    · next hsome =>
      refine ⟨⟨representative, mem_cons_self, ?_⟩, rfl⟩
      rw [if_neg hsome]
      simp [mergedFrom, observed, Function.comp_def]

lemma mergedFrom_congr
    (hcontent : a.event.canonicalUnsignedEvent = b.event.canonicalUnsignedEvent)
    (hfields : a.event.fields = b.event.fields)
    (hsignature : a.producerSignature = b.producerSignature)
    (surviving : List (AdmissionReceipt × Digest)) :
    mergedFrom x a surviving = mergedFrom x b surviving := by
  simp only [SemanticEventRecord.fields, Prod.mk.injEq] at hfields
  obtain ⟨hscope, hissuer, hdomain, hkey, hpayload⟩ := hfields
  simp only [mergedFrom, hcontent, hscope, hissuer, hdomain, hkey, hpayload, hsignature]

lemma SameItems.contentsDiffer_iff (h : SameItems g g') : ContentsDiffer g ↔ ContentsDiffer g' :=
  h.exists_pair_iff
    (p := fun i j => i.event.canonicalUnsignedEvent ≠ j.event.canonicalUnsignedEvent)

lemma SameItems.signaturesDiffer_iff (h : SameItems g g') :
    SignaturesDiffer g ↔ SignaturesDiffer g' :=
  h.exists_pair_iff (p := fun i j => i.producerSignature ≠ j.producerSignature)

lemma merged_congr (h : SameItems g g') (hfields : ∀ a ∈ g, ∀ b ∈ g,
      a.2.event.canonicalUnsignedEvent = b.2.event.canonicalUnsignedEvent →
        a.2.event.fields = b.2.event.fields) :
    (mergeCrossDomainEventGroup x g).merged = (mergeCrossDomainEventGroup x g').merged := by
  have hcontents := h.contentsDiffer_iff
  have hsignatures := h.signaturesDiffer_iff
  by_cases hnil : g = []
  · rw [hnil, h.eq_nil_iff.mp hnil]
  by_cases hc : ContentsDiffer g
  · rw [(mergeGroup_of_contentsDiffer hc).1, (mergeGroup_of_contentsDiffer (hcontents.mp hc)).1]
  by_cases hs : SignaturesDiffer g
  · rw [(mergeGroup_of_signaturesDiffer hc hs).1,
      (mergeGroup_of_signaturesDiffer (hcontents.not.mp hc) (hsignatures.mp hs)).1]
  obtain ⟨⟨a, ha, hmerged⟩, -⟩ := mergeGroup_of_agree (x := x) hc hs hnil
  obtain ⟨⟨b, hb, hmerged'⟩, -⟩ := mergeGroup_of_agree (x := x) (hcontents.not.mp hc)
    (hsignatures.not.mp hs) (h.eq_nil_iff.not.mp hnil)
  -- The representative of the other group is an item of this one.
  obtain ⟨b', hb', hsame⟩ := h.symm.exists_mem hb
  have hcontent : a.2.event.canonicalUnsignedEvent = b'.2.event.canonicalUnsignedEvent := by
    by_contra hne
    exact hc ⟨a, ha, b', hb', hne⟩
  have hsignature : a.2.producerSignature = b'.2.producerSignature := by
    by_contra hne
    exact hs ⟨a, ha, b', hb', hne⟩
  rw [hmerged, hmerged', map_observed_survivorsIn h, ← hsame,
    mergedFrom_congr hcontent (hfields a ha b' hb' hcontent) hsignature]

lemma conflicts_congr (h : SameItems g g') :
    (∃ conflict ∈ (mergeCrossDomainEventGroup x g).conflicts,
      ∃ o ∈ conflict.occurrences, o.receiptId = receiptId) ↔
    ∃ conflict ∈ (mergeCrossDomainEventGroup x g').conflicts,
      ∃ o ∈ conflict.occurrences, o.receiptId = receiptId := by
  have hcontents := h.contentsDiffer_iff
  have hsignatures := h.signaturesDiffer_iff
  by_cases hnil : g = []
  · rw [hnil, h.eq_nil_iff.mp hnil]
  by_cases hc : ContentsDiffer g
  · rw [(mergeGroup_of_contentsDiffer hc).2, (mergeGroup_of_contentsDiffer (hcontents.mp hc)).2]
  by_cases hs : SignaturesDiffer g
  · rw [(mergeGroup_of_signaturesDiffer hc hs).2,
      (mergeGroup_of_signaturesDiffer (hcontents.not.mp hc) (hsignatures.mp hs)).2]
    simpa [SignedEventSetConflict.occurrences] using
      h.exists_iff (p := fun i => i.admission.receiptId = receiptId)
  · rw [(mergeGroup_of_agree hc hs hnil).2, (mergeGroup_of_agree (hcontents.not.mp hc)
      (hsignatures.not.mp hs) (h.eq_nil_iff.not.mp hnil)).2, exists_conflict_iff,
      exists_conflict_iff, mem_implicatedIn_congr h]

end Group

def MergeReport.conflictingReceiptIds {μ : Type} (report : MergeReport μ) : Set ReceiptId :=
  {receiptId | ∃ conflict ∈ report.conflicts, ∃ o ∈ conflict.occurrences, o.receiptId = receiptId}

section Sets

variable {identity : Option SignatureVerifier}
  {first second first' second' : List CrossDomainEventItem}

lemma validateCrossDomainItem_origin (origin origin' : SignedEventSetOrigin)
    (item : CrossDomainEventItem) : validateCrossDomainItem identity origin item = .ok () ↔
      validateCrossDomainItem identity origin' item = .ok () := by
  simp [validateCrossDomainItem, validateEventAndAdmission, bind_eq_ok, refuseIf_eq_ok,
    forSome_eq_ok]

abbrev crossDomainGroup (identity : Option SignatureVerifier)
    (first second : List CrossDomainEventItem) (x : SemanticEventId) :
    List (SignedEventSetOrigin × CrossDomainEventItem) :=
  groupOf (validateCrossDomainItem identity) (fun item => item.event.eventId) first second x

lemma sameItems_crossDomainGroup
    (hsame : ∀ item, item ∈ first ++ second ↔ item ∈ first' ++ second') (x : SemanticEventId) :
    SameItems (crossDomainGroup identity first second x)
      (crossDomainGroup identity first' second' x) := by
  intro item
  simp only [mem_groupOf, validateCrossDomainItem_origin _ .first, exists_and_right,
    exists_mem_itemsOf, hsame]

lemma merged_eq_filterMap : (mergeCrossDomainInner identity first second).merged =
      (ascending ((acceptedOf (validateCrossDomainItem identity) (itemsOf first second)).map
        fun item => item.2.event.eventId)).filterMap fun x =>
          (mergeCrossDomainEventGroup x (crossDomainGroup identity first second x)).merged := by
  simp only [mergeCrossDomainInner, mergeItems, groupReports, groups, filterMap_map, map_map]
  rfl

lemma mem_eventIds :
    x ∈ (acceptedOf (validateCrossDomainItem identity) (itemsOf first second)).map
        (fun item => item.2.event.eventId) ↔
      ∃ item, item ∈ crossDomainGroup identity first second x := by
  simp only [mem_map, mem_groupOf, mem_acceptedOf, and_assoc]

lemma exists_mem_crossDomainGroup
    (hsame : ∀ item, item ∈ first ++ second ↔ item ∈ first' ++ second') :
    (∃ item, item ∈ crossDomainGroup identity first second x) ↔
      ∃ item, item ∈ crossDomainGroup identity first' second' x := by
  have hitems : SameItems (crossDomainGroup identity first second x)
      (crossDomainGroup identity first' second' x) := sameItems_crossDomainGroup hsame x
  simpa using hitems.exists_iff (p := fun _ => True)

lemma fields_eq_of_fieldsEncoded (hfields : FieldsEncoded (first ++ second))
    (ha : a ∈ crossDomainGroup identity first second x)
    (hb : b ∈ crossDomainGroup identity first second x)
    (hcontent : a.2.event.canonicalUnsignedEvent = b.2.event.canonicalUnsignedEvent) :
    a.2.event.fields = b.2.event.fields := by
  obtain ⟨decode, hdecode⟩ := hfields
  have hmem {c : SignedEventSetOrigin × CrossDomainEventItem}
      (hc : c ∈ crossDomainGroup identity first second x) : c.2 ∈ first ++ second :=
    exists_mem_itemsOf.mp ⟨c.1, (mem_groupOf.mp hc).1⟩
  rw [hdecode a.2 (hmem ha), hdecode b.2 (hmem hb), hcontent]

lemma mergeCrossDomainInner_congr
    (hsame : ∀ item, item ∈ first ++ second ↔ item ∈ first' ++ second')
    (hfields : FieldsEncoded (first ++ second)) :
    (mergeCrossDomainInner identity first second).merged =
        (mergeCrossDomainInner identity first' second').merged ∧
      (mergeCrossDomainInner identity first second).conflictingReceiptIds =
        (mergeCrossDomainInner identity first' second').conflictingReceiptIds := by
  constructor
  · rw [merged_eq_filterMap, merged_eq_filterMap]
    have hkeys : ascending ((acceptedOf (validateCrossDomainItem identity)
        (itemsOf first second)).map fun item => item.2.event.eventId) =
        ascending ((acceptedOf (validateCrossDomainItem identity)
          (itemsOf first' second')).map fun item => item.2.event.eventId) :=
      ascending_congr fun x => by
        rw [mem_eventIds, mem_eventIds, exists_mem_crossDomainGroup hsame]
    rw [hkeys]
    refine filterMap_congr fun x _ => ?_
    exact merged_congr (sameItems_crossDomainGroup hsame x)
      fun a ha b hb hcontent => fields_eq_of_fieldsEncoded hfields ha hb hcontent
  · ext receiptId
    have hgroup (x : SemanticEventId) :
        (∃ conflict ∈ (mergeCrossDomainEventGroup x
            (crossDomainGroup identity first second x)).conflicts,
          ∃ o ∈ conflict.occurrences, o.receiptId = receiptId) ↔
        ∃ conflict ∈ (mergeCrossDomainEventGroup x
            (crossDomainGroup identity first' second' x)).conflicts,
          ∃ o ∈ conflict.occurrences, o.receiptId = receiptId :=
      conflicts_congr (sameItems_crossDomainGroup hsame x)
    simp only [MergeReport.conflictingReceiptIds, Set.mem_ofPred_eq, mergeCrossDomainInner,
      mem_conflicts]
    constructor
    · rintro ⟨conflict, ⟨x, hsome, hconflict⟩, ho⟩
      obtain ⟨conflict', hconflict', ho'⟩ := (hgroup x).mp ⟨conflict, hconflict, ho⟩
      exact ⟨conflict', ⟨x, (exists_mem_crossDomainGroup hsame).mp hsome, hconflict'⟩, ho'⟩
    · rintro ⟨conflict, ⟨x, hsome, hconflict⟩, ho⟩
      obtain ⟨conflict', hconflict', ho'⟩ := (hgroup x).mpr ⟨conflict, hconflict, ho⟩
      exact ⟨conflict', ⟨x, (exists_mem_crossDomainGroup hsame).mpr hsome, hconflict'⟩, ho'⟩

/-- Two merges of the same items, in any order, with any repetition and split between the two sets
in any way, have the same merged events and name the same receipts in their conflicts. -/
theorem merge_cross_domain_order_insensitive
    (hsame : ∀ item, item ∈ first ++ second ↔ item ∈ first' ++ second')
    (hfields : FieldsEncoded (first ++ second)) : (mergeCrossDomainEventSets first second).merged =
        (mergeCrossDomainEventSets first' second').merged ∧
      (mergeCrossDomainEventSets first second).conflictingReceiptIds =
        (mergeCrossDomainEventSets first' second').conflictingReceiptIds :=
  mergeCrossDomainInner_congr hsame hfields

end Sets

namespace Sample

def crossDomainItem (content : List UInt8) (store : PrincipalId) : CrossDomainEventItem where
  event := event content
  producerSignature := 1
  admission := admission content store 1
  trustSnapshotDigest := 1

lemma fieldsEncoded : FieldsEncoded
    ([crossDomainItem [1] 1, crossDomainItem [1] 2] ++ [crossDomainItem [2] 1]) := by
  refine ⟨fun _ => (event [1]).fields, fun item hitem => ?_⟩
  simp only [cons_append, nil_append, mem_cons, not_mem_nil, or_false]
    at hitem
  rcases hitem with rfl | rfl | rfl <;>
    simp only [crossDomainItem, event, SemanticEventRecord.fields]

end Sample

theorem merge_cross_domain_order_insensitive_swap :
    (mergeCrossDomainEventSets [Sample.crossDomainItem [1] 1, Sample.crossDomainItem [1] 2]
        [Sample.crossDomainItem [2] 1]).merged =
      (mergeCrossDomainEventSets [Sample.crossDomainItem [2] 1, Sample.crossDomainItem [2] 1]
        [Sample.crossDomainItem [1] 2, Sample.crossDomainItem [1] 1]).merged := by
  refine (merge_cross_domain_order_insensitive (fun item => ?_) Sample.fieldsEncoded).1
  generalize Sample.crossDomainItem [1] 1 = a
  generalize Sample.crossDomainItem [1] 2 = b
  generalize Sample.crossDomainItem [2] 1 = c
  simp only [cons_append, nil_append, mem_cons, not_mem_nil, or_false]
  tauto

end Nlos.Semantic
