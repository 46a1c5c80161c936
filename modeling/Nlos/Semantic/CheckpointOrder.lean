import Nlos.Semantic.Checkpoint
import Nlos.Semantic.MergeUnion

/-!
# What the comparison of vector checkpoints says about the events

Of one domain the comparison reads the number of events before their identities. A checkpoint that
counts more events in a domain is reported ahead there, whether or not it has the events of the
other one.
-/

namespace Nlos.Semantic

open Lib Capability List Sha256 Merkle

def merkleMessages (eventIds : List SemanticEventId) : List (List UInt8) :=
  (ascending eventIds).map leafMessage ++
    Merkle.messages Sha256.digest nodeMessage (leaves eventIds).length (leaves eventIds)

lemma length_leaves (eventIds : List SemanticEventId) :
    (leaves eventIds).length = eventIds.toFinset.card := by
  rw [leaves, length_map, length_ascending]

lemma leafMessage_injective : Function.Injective leafMessage := by
  intro eventId eventId' h
  exact Word.bytes_injective (append_cancel_left h)

lemma nodeMessage_inj
    (h : nodeMessage left right = nodeMessage left' right') : left = left' ∧ right = right' := by
  cases right with
  | none =>
    cases right' with
    | none =>
      simp only [nodeMessage, append_assoc] at h
      exact ⟨(Word.bytes_append_inj.mp (append_cancel_left h)).1, rfl⟩
    | some =>
      have hlength := congrArg List.length h
      simp [nodeMessage] at hlength
  | some =>
    cases right' with
    | none =>
      have hlength := congrArg List.length h
      simp [nodeMessage] at hlength
    | some =>
      simp only [nodeMessage, append_assoc] at h
      obtain ⟨hleft, hrest⟩ := Word.bytes_append_inj.mp (append_cancel_left h)
      exact ⟨hleft, congrArg some (Word.bytes_injective (append_cancel_left hrest))⟩

lemma climb_leaves (h : leaves eventIds ≠ []) :
    climb digest nodeMessage (leaves eventIds).length (leaves eventIds) =
      [computeEventIdMerkleRoot eventIds] := by
  have hle : (climb digest nodeMessage (leaves eventIds).length
      (leaves eventIds)).length ≤ 1 := length_climb_le (Nat.le_succ _)
  have hne : climb digest nodeMessage (leaves eventIds).length
      (leaves eventIds) ≠ [] := climb_ne_nil h
  obtain ⟨root, rest, hclimb⟩ := exists_cons_of_ne_nil hne
  rw [hclimb, length_cons] at hle
  have hrest : rest = [] := eq_nil_of_length_eq_zero (by omega)
  have hroot : computeEventIdMerkleRoot eventIds = root := by
    rw [computeEventIdMerkleRoot]
    split
    · contradiction
    · rw [hclimb]
  rw [hclimb, hrest, hroot]

lemma toFinset_eq_of_computeEventIdMerkleRoot_eq
    (hcard : eventIds.toFinset.card = eventIds'.toFinset.card) (hfree : Set.InjOn digest
      {m | m ∈ merkleMessages eventIds ∨ m ∈ merkleMessages eventIds'})
    (hroot : computeEventIdMerkleRoot eventIds = computeEventIdMerkleRoot eventIds') :
    eventIds.toFinset = eventIds'.toFinset := by
  have hlength : (leaves eventIds).length = (leaves eventIds').length := by
    rw [length_leaves, length_leaves, hcard]
  have hleaves : leaves eventIds = leaves eventIds' := by
    by_cases hnil : leaves eventIds = []
    · rw [hnil, eq_nil_of_length_eq_zero (l := leaves eventIds') (by rw [← hlength, hnil]; rfl)]
    · have hnil' : leaves eventIds' ≠ [] := by
        intro h
        exact hnil (eq_nil_of_length_eq_zero (by rw [hlength, h]; rfl))
      refine climb_injective nodeMessage_inj hlength (hfree.mono fun m hm => ?_)
        (n := (leaves eventIds).length) ?_
      · rw [hlength] at hm
        exact hm.imp (fun h => mem_append_right _ (hlength ▸ h)) (mem_append_right _)
      · rw [climb_leaves hnil, hlength, climb_leaves hnil', hroot]
  -- Equal leaves come from equal leaf messages, and these from equal events.
  have hmessages :
      (ascending eventIds).map leafMessage = (ascending eventIds').map leafMessage := by
    refine eq_of_map_hash_eq (hfree.mono fun m hm => ?_) ?_
    · exact hm.imp (mem_append_left _) (mem_append_left _)
    · rw [map_map, map_map]
      exact hleaves
  have hascending : ascending eventIds = ascending eventIds' :=
    map_injective_iff.mpr leafMessage_injective hmessages
  ext eventId
  rw [mem_toFinset, mem_toFinset, ← mem_ascending, hascending, mem_ascending]

section Build

variable {items : List SignedEventSetItem} {trustSnapshotDigest : Digest}
  {checkpoint : SemanticVectorCheckpoint} {authorityId : ControlDomainId}

def domainItems (items : List SignedEventSetItem) (authorityId : ControlDomainId) :
    List SignedEventSetItem :=
  items.filter fun item => item.event.controlDomain = authorityId

def domainEvents (items : List SignedEventSetItem) (authorityId : ControlDomainId) :
    Finset SemanticEventId :=
  ((domainItems items authorityId).map fun item => item.event.eventId).toFinset

lemma domainEvents_eq_empty :
    domainEvents items authorityId = ∅ ↔ domainItems items authorityId = [] := by
  rw [domainEvents, toFinset_eq_empty_iff, map_eq_nil_iff]

lemma domainItems_ne_nil :
    domainItems items authorityId ≠ [] ↔ ∃ item ∈ items, item.event.controlDomain = authorityId
    := by
  simp [domainItems, filter_eq_nil_iff]

lemma domainWatermarks_of_build
    (h : buildVectorCheckpoint items trustSnapshotDigest = .ok checkpoint) :
    checkpoint.domainWatermarks =
      (groups (fun item => item.event.controlDomain) items).map fun group =>
        domainWatermark trustSnapshotDigest group.1 group.2 := by
  rw [buildVectorCheckpoint] at h
  split_ifs at h
  rw [← Except.ok.inj h]

lemma watermark?_eq_some_of_build
    (h : buildVectorCheckpoint items trustSnapshotDigest = .ok checkpoint) :
    checkpoint.watermark? authorityId = some watermark ↔ domainItems items authorityId ≠ [] ∧
        watermark = domainWatermark trustSnapshotDigest authorityId
          (domainItems items authorityId) := by
  have hpairwise : checkpoint.domainWatermarks.Pairwise
      fun l r => l.authorityId < r.authorityId := by
    rw [domainWatermarks_of_build h, pairwise_map]
    exact pairwise_groups _ _
  rw [SemanticVectorCheckpoint.watermark?, find?_reverse_eq_some hpairwise,
    domainWatermarks_of_build h, mem_map, domainItems_ne_nil]
  constructor
  · rintro ⟨⟨⟨key, group⟩, hgroup, rfl⟩, rfl⟩
    obtain ⟨hkey, rfl⟩ := mem_groups.mp hgroup
    exact ⟨hkey, rfl⟩
  · rintro ⟨hkey, rfl⟩
    exact ⟨⟨(authorityId, domainItems items authorityId), mem_groups.mpr ⟨hkey, rfl⟩, rfl⟩, rfl⟩

lemma watermark?_eq_none_of_build
    (h : buildVectorCheckpoint items trustSnapshotDigest = .ok checkpoint) :
    checkpoint.watermark? authorityId = none ↔ domainItems items authorityId = [] := by
  rw [← not_iff_not, ← Ne, Option.ne_none_iff_exists']
  constructor
  · rintro ⟨watermark, hwatermark⟩
    exact ((watermark?_eq_some_of_build h).mp hwatermark).1
  · intro hne
    exact ⟨_, (watermark?_eq_some_of_build h).mpr ⟨hne, rfl⟩⟩

lemma eventCount_domainWatermark :
    (domainWatermark trustSnapshotDigest authorityId (domainItems items authorityId)).eventCount =
      (domainEvents items authorityId).card :=
  length_ascending _

lemma eventIdMerkleRoot_domainWatermark : (domainWatermark trustSnapshotDigest authorityId
      (domainItems items authorityId)).eventIdMerkleRoot = computeEventIdMerkleRoot
        ((domainItems items authorityId).map fun item => item.event.eventId) := by
  have hids (l : List SemanticEventId) : leaves (ascending l) = leaves l := by
    rw [leaves, ascending_congr fun _ => mem_ascending, leaves]
  simp only [domainWatermark, computeEventIdMerkleRoot, hids]

end Build

/-! ## The relation reported for a domain -/

section Compare

variable {l r : SemanticVectorCheckpoint} {diff : DomainWatermarkDiff}

lemma authorityId_of_diffDomain {authorityId l r} (h : diffDomain authorityId l r = some diff) :
    diff.authorityId = authorityId := by
  cases l <;> cases r <;> simp only [diffDomain, Option.some.injEq, reduceCtorEq] at h <;> rw [← h]

lemma mem_domainDiffs : diff ∈ (diffVectorCheckpoints l r).domainDiffs ↔
    diffDomain diff.authorityId (l.watermark? diff.authorityId)
      (r.watermark? diff.authorityId) = some diff := by
  have hmem (c : SemanticVectorCheckpoint) {authorityId : ControlDomainId}
      (h : c.watermark? authorityId ≠ none) :
      authorityId ∈ c.domainWatermarks.map DomainSemanticWaterMark.authorityId := by
    obtain ⟨watermark, hwatermark⟩ := Option.ne_none_iff_exists'.mp h
    have hkey : watermark.authorityId = authorityId := by simpa using find?_some hwatermark
    rw [← hkey]
    exact mem_map_of_mem (mem_reverse.mp (mem_of_find?_eq_some hwatermark))
  simp only [diffVectorCheckpoints, mem_filterMap, mem_ascending, mem_append]
  constructor
  · rintro ⟨authorityId, -, hdiff⟩
    rwa [authorityId_of_diffDomain hdiff]
  · intro hdiff
    refine ⟨diff.authorityId, ?_, hdiff⟩
    by_contra hnone
    rw [not_or] at hnone
    have hl := not_not.mp (mt (hmem l) hnone.1)
    have hr := not_not.mp (mt (hmem r) hnone.2)
    rw [hl, hr] at hdiff
    cases hdiff

lemma relation_eq_concurrent (hdiff : diff ∈ (diffVectorCheckpoints l r).domainDiffs)
    (hconcurrent : diff.relation = .concurrent) :
    (diffVectorCheckpoints l r).relation = .concurrent := by
  have hdomains : (diffVectorCheckpoints l r).concurrentDomains ≠ [] := by
    refine ne_nil_of_mem (a := diff.authorityId) ?_
    exact mem_map_of_mem (mem_filter.mpr ⟨hdiff, by simpa using hconcurrent⟩)
  exact if_pos (.inl hdomains)

end Compare

section Order

variable {A B : List SignedEventSetItem} {t : Digest} {a b : SemanticVectorCheckpoint}

lemma exists_domainDiff (ha : buildVectorCheckpoint A t = .ok a)
    (hb : buildVectorCheckpoint B t = .ok b)
    (h : domainEvents A authorityId ≠ ∅ ∨ domainEvents B authorityId ≠ ∅) :
    ∃ diff ∈ (diffVectorCheckpoints a b).domainDiffs, diff.authorityId = authorityId := by
  have hsome : diffDomain authorityId (a.watermark? authorityId) (b.watermark? authorityId) ≠
      none := by
    intro hnone
    rw [Ne, Ne, domainEvents_eq_empty, domainEvents_eq_empty, ← watermark?_eq_none_of_build ha,
      ← watermark?_eq_none_of_build hb] at h
    cases hl : a.watermark? authorityId <;> cases hr : b.watermark? authorityId <;>
      simp [hl, hr, diffDomain] at h hnone
  obtain ⟨diff, hdiff⟩ := Option.ne_none_iff_exists'.mp hsome
  have hid := authorityId_of_diffDomain hdiff
  exact ⟨diff, mem_domainDiffs.mpr (by rwa [hid]), hid⟩

structure DomainCompared (A B : List SignedEventSetItem) (diff : DomainWatermarkDiff) : Prop where
  localAhead : diff.relation = .localAhead ↔
    (domainEvents B diff.authorityId).card < (domainEvents A diff.authorityId).card
  remoteAhead : diff.relation = .remoteAhead ↔
    (domainEvents A diff.authorityId).card < (domainEvents B diff.authorityId).card
  equal : diff.relation = .equal →
    computeEventIdMerkleRoot ((domainItems A diff.authorityId).map fun item => item.event.eventId) =
      computeEventIdMerkleRoot ((domainItems B diff.authorityId).map fun item => item.event.eventId)

lemma watermarkRelation_eq_localAhead :
    watermarkRelation l r = .localAhead ↔ r.eventCount < l.eventCount := by
  rw [watermarkRelation]
  split_ifs with hequal hlocal hremote
  · simpa using hequal.1.le
  · simpa using hlocal
  · simpa using hremote.le
  · simpa using hlocal

lemma watermarkRelation_eq_remoteAhead :
    watermarkRelation l r = .remoteAhead ↔ l.eventCount < r.eventCount := by
  rw [watermarkRelation]
  split_ifs with hequal hlocal hremote
  · simpa using hequal.1.ge
  · simpa using hlocal.le
  · simpa using hremote
  · simpa using hremote

lemma eventIdMerkleRoot_eq_of_watermarkRelation
    (h : watermarkRelation l r = .equal) : l.eventIdMerkleRoot = r.eventIdMerkleRoot := by
  rw [watermarkRelation] at h
  split_ifs at h with hequal
  exact hequal.2.1

lemma domainCompared_of_mem (ha : buildVectorCheckpoint A t = .ok a)
    (hb : buildVectorCheckpoint B t = .ok b)
    (hdiff : diff ∈ (diffVectorCheckpoints a b).domainDiffs) : DomainCompared A B diff := by
  rw [mem_domainDiffs] at hdiff
  generalize hid : diff.authorityId = authorityId at hdiff
  cases hl : a.watermark? authorityId with
  | none =>
    have hA := domainEvents_eq_empty.mpr ((watermark?_eq_none_of_build ha).mp hl)
    cases hr : b.watermark? authorityId with
    | none =>
      rw [hl, hr] at hdiff
      cases hdiff
    | some =>
      obtain ⟨hne, rfl⟩ := (watermark?_eq_some_of_build hb).mp hr
      rw [hl, hr, diffDomain, Option.some.injEq] at hdiff
      have hrelation : diff.relation = .remoteAhead := by rw [← hdiff]
      have hB := Finset.card_pos.mpr
        (Finset.nonempty_iff_ne_empty.mpr (mt domainEvents_eq_empty.mp hne))
      refine ⟨?_, ?_, ?_⟩ <;> simp [hrelation, hid, hA, hB]
  | some =>
    obtain ⟨hne, rfl⟩ := (watermark?_eq_some_of_build ha).mp hl
    cases hr : b.watermark? authorityId with
    | none =>
      have hB := domainEvents_eq_empty.mpr ((watermark?_eq_none_of_build hb).mp hr)
      rw [hl, hr, diffDomain, Option.some.injEq] at hdiff
      have hrelation : diff.relation = .localAhead := by rw [← hdiff]
      have hA := Finset.card_pos.mpr
        (Finset.nonempty_iff_ne_empty.mpr (mt domainEvents_eq_empty.mp hne))
      refine ⟨?_, ?_, ?_⟩ <;> simp [hrelation, hid, hA, hB]
    | some =>
      obtain ⟨-, rfl⟩ := (watermark?_eq_some_of_build hb).mp hr
      rw [hl, hr, diffDomain, Option.some.injEq] at hdiff
      have hrelation : diff.relation = watermarkRelation
          (domainWatermark t authorityId (domainItems A authorityId))
          (domainWatermark t authorityId (domainItems B authorityId)) := by rw [← hdiff]
      refine ⟨?_, ?_, fun hequal => ?_⟩
      · rw [hrelation, watermarkRelation_eq_localAhead, eventCount_domainWatermark,
          eventCount_domainWatermark, hid]
      · rw [hrelation, watermarkRelation_eq_remoteAhead, eventCount_domainWatermark,
          eventCount_domainWatermark, hid]
      · rw [hrelation] at hequal
        have hroot := eventIdMerkleRoot_eq_of_watermarkRelation hequal
        rwa [eventIdMerkleRoot_domainWatermark, eventIdMerkleRoot_domainWatermark, ← hid]
          at hroot

def domainMessages (items : List SignedEventSetItem) : Set (List UInt8) :=
  {m | ∃ authorityId, m ∈ merkleMessages
    ((domainItems items authorityId).map fun item => item.event.eventId)}

/-- The comparison reports one side ahead in a domain only if it has the events of the other, and
reports concurrent checkpoints wherever neither set contains the other. -/
structure CausallySound (A B : List SignedEventSetItem) (diff : VectorCheckpointDiff) : Prop where
  localAhead : ∀ d ∈ diff.domainDiffs, d.relation = .localAhead →
    domainEvents B d.authorityId ⊆ domainEvents A d.authorityId
  remoteAhead : ∀ d ∈ diff.domainDiffs, d.relation = .remoteAhead →
    domainEvents A d.authorityId ⊆ domainEvents B d.authorityId
  concurrent : ∀ authorityId, ¬ domainEvents A authorityId ⊆ domainEvents B authorityId →
    ¬ domainEvents B authorityId ⊆ domainEvents A authorityId → diff.relation = .concurrent

/-- Where the numbers of events of a domain differ, the smaller set is part of the larger. -/
def CountsNested (A B : List SignedEventSetItem) : Prop :=
  ∀ authorityId,
    ((domainEvents B authorityId).card < (domainEvents A authorityId).card →
      domainEvents B authorityId ⊆ domainEvents A authorityId) ∧
    ((domainEvents A authorityId).card < (domainEvents B authorityId).card →
      domainEvents A authorityId ⊆ domainEvents B authorityId)

/-- A sound comparison needs the smaller of two event sets to be part of the larger. -/
lemma countsNested_of_causallySound (ha : buildVectorCheckpoint A t = .ok a)
    (hb : buildVectorCheckpoint B t = .ok b)
    (h : CausallySound A B (diffVectorCheckpoints a b)) : CountsNested A B := by
  intro authorityId
  refine ⟨fun hlt => ?_, fun hlt => ?_⟩
  · have hne : domainEvents A authorityId ≠ ∅ := Finset.card_pos.mp (by omega) |>.ne_empty
    obtain ⟨diff, hdiff, rfl⟩ := exists_domainDiff ha hb (.inl hne)
    exact h.localAhead diff hdiff ((domainCompared_of_mem ha hb hdiff).localAhead.mpr hlt)
  · have hne : domainEvents B authorityId ≠ ∅ := Finset.card_pos.mp (by omega) |>.ne_empty
    obtain ⟨diff, hdiff, rfl⟩ := exists_domainDiff ha hb (.inr hne)
    exact h.remoteAhead diff hdiff ((domainCompared_of_mem ha hb hdiff).remoteAhead.mpr hlt)

/-- Sets of one size, neither of which contains the other, are told apart. -/
lemma concurrent_of_card_eq (ha : buildVectorCheckpoint A t = .ok a)
    (hb : buildVectorCheckpoint B t = .ok b)
    (hfree : Set.InjOn digest (domainMessages A ∪ domainMessages B))
    (hcard : (domainEvents A authorityId).card = (domainEvents B authorityId).card)
    (hne : domainEvents A authorityId ≠ domainEvents B authorityId) :
    (diffVectorCheckpoints a b).relation = .concurrent := by
  have hsome : domainEvents A authorityId ≠ ∅ ∨ domainEvents B authorityId ≠ ∅ := by
    by_contra hboth
    rw [not_or, not_not, not_not] at hboth
    exact hne (hboth.1.trans hboth.2.symm)
  obtain ⟨diff, hdiff, rfl⟩ := exists_domainDiff ha hb hsome
  have hcompared := domainCompared_of_mem ha hb hdiff
  refine relation_eq_concurrent hdiff ?_
  cases hrelation : diff.relation with
  | equal =>
    refine absurd ?_ hne
    refine toFinset_eq_of_computeEventIdMerkleRoot_eq hcard (hfree.mono ?_)
      (hcompared.equal hrelation)
    exact fun m hm => hm.imp (fun h => ⟨_, h⟩) (fun h => ⟨_, h⟩)
  | localAhead => exact absurd (hcompared.localAhead.mp hrelation) (by omega)
  | remoteAhead => exact absurd (hcompared.remoteAhead.mp hrelation) (by omega)
  | concurrent => rfl

theorem vector_checkpoint_causally_sound_iff (ha : buildVectorCheckpoint A t = .ok a)
    (hb : buildVectorCheckpoint B t = .ok b)
    (hfree : Set.InjOn Sha256.digest (domainMessages A ∪ domainMessages B)) :
    CausallySound A B (diffVectorCheckpoints a b) ↔ CountsNested A B := by
  refine ⟨countsNested_of_causallySound ha hb, fun h => ⟨?_, ?_, ?_⟩⟩
  · intro diff hdiff hahead
    exact (h diff.authorityId).1 ((domainCompared_of_mem ha hb hdiff).localAhead.mp hahead)
  · intro diff hdiff hahead
    exact (h diff.authorityId).2 ((domainCompared_of_mem ha hb hdiff).remoteAhead.mp hahead)
  · intro authorityId hAB hBA
    -- Sets of different sizes would be nested.
    have hcard : (domainEvents A authorityId).card = (domainEvents B authorityId).card := by
      rcases lt_trichotomy (domainEvents A authorityId).card (domainEvents B authorityId).card with
        hlt | heq | hgt
      · exact absurd ((h authorityId).2 hlt) hAB
      · exact heq
      · exact absurd ((h authorityId).1 hgt) hBA
    exact concurrent_of_card_eq ha hb hfree hcard fun heq => hAB heq.subset

end Order

def OneAdmissionPerEvent (items : List SignedEventSetItem) : Prop :=
  ∀ item ∈ items, ∀ item' ∈ items, item.event.eventId = item'.event.eventId →
    item.admission = item'.admission

namespace Sample

/-- Two events of a domain, a third event of that domain, and the first one alone. -/
def ahead : List SignedEventSetItem := [item [1] 1 1, item [2] 1 1]

def behind : List SignedEventSetItem := [item [3] 1 1]

def included : List SignedEventSetItem := [item [1] 1 1]

def eventIds (items : List SignedEventSetItem) : List SemanticEventId :=
  items.map fun item => item.event.eventId

lemma digests_nodup : ((merkleMessages (eventIds ahead) ++ merkleMessages (eventIds behind)).map
      digest).Nodup := by
  decide +kernel

lemma third_event_ne :
    semanticEventId [3] ≠ semanticEventId [1] ∧ semanticEventId [3] ≠ semanticEventId [2] := by
  decide +kernel

section OneDomain

variable {items : List SignedEventSetItem}

lemma domainItems_of_one (h : ∀ item ∈ items, item.event.controlDomain = 1)
    (authorityId : ControlDomainId) :
    domainItems items authorityId = if authorityId = 1 then items else [] := by
  split_ifs with hone
  · subst hone
    exact filter_eq_self.mpr fun item hitem => by simpa using h item hitem
  · refine filter_eq_nil_iff.mpr fun item hitem => ?_
    rw [h item hitem, decide_eq_true_eq]
    exact Ne.symm hone

lemma mem_of_mem_domainMessages (h : ∀ item ∈ items, item.event.controlDomain = 1)
    (hm : m ∈ domainMessages items) : m ∈ merkleMessages
    (eventIds items) := by
  obtain ⟨authorityId, hm⟩ := hm
  rw [domainItems_of_one h] at hm
  split_ifs at hm
  · exact hm
  · simp [merkleMessages, ascending, leaves, messages] at hm

end OneDomain

lemma controlDomain_ahead : ∀ item ∈ ahead, item.event.controlDomain = 1 := by
  simp [ahead, item, event]

lemma controlDomain_behind : ∀ item ∈ behind, item.event.controlDomain = 1 := by
  simp [behind, item, event]

lemma controlDomain_included : ∀ item ∈ included, item.event.controlDomain = 1 := by
  simp [included, item, event]

lemma digest_injOn {l l' : List (List UInt8)}
    (hnodup : ((l ++ l').map digest).Nodup) (hs : ∀ m ∈ s, m ∈ l ∨ m ∈ l') :
    Set.InjOn digest s := by
  intro m hm m' hm' heq
  exact inj_on_of_nodup_map hnodup (mem_append.mpr (hs m hm))
    (mem_append.mpr (hs m' hm')) heq

lemma digest_injOn_behind : Set.InjOn digest (domainMessages ahead ∪ domainMessages behind) := by
  refine digest_injOn digests_nodup fun m hm => hm.imp ?_ ?_
  · exact mem_of_mem_domainMessages controlDomain_ahead
  · exact mem_of_mem_domainMessages controlDomain_behind

/-- The one leaf of the smaller list is a leaf of the larger. -/
lemma digest_injOn_included :
    Set.InjOn digest (domainMessages ahead ∪ domainMessages included) := by
  refine digest_injOn digests_nodup fun m hm => .inl (hm.elim ?_ fun hm => ?_)
  · exact mem_of_mem_domainMessages controlDomain_ahead
  · have hleaf : m = leafMessage (semanticEventId [1]) := by
      simpa [merkleMessages, ascending, leaves, messages, eventIds, included, item, event]
        using mem_of_mem_domainMessages controlDomain_included hm
    refine mem_append_left _ (mem_map.mpr ⟨semanticEventId [1], ?_, hleaf.symm⟩)
    simp [eventIds, ahead, item, event]

lemma domainEvents_ahead : domainEvents ahead 1 = {semanticEventId [1], semanticEventId [2]} := by
  simp only [domainEvents, domainItems_of_one controlDomain_ahead, if_true]
  simp only [ahead, item, event, map_cons, map_nil, toFinset_cons, toFinset_nil, insert_empty_eq]

lemma domainEvents_behind : domainEvents behind 1 = {semanticEventId [3]} := by
  simp only [domainEvents, domainItems_of_one controlDomain_behind, if_true]
  simp only [behind, item, event, map_cons, map_nil, toFinset_cons, toFinset_nil, insert_empty_eq]

lemma not_countsNested : ¬ CountsNested ahead behind := by
  intro h
  have hcard : (domainEvents behind 1).card < (domainEvents ahead 1).card := by
    rw [domainEvents_ahead, domainEvents_behind, Finset.card_singleton,
      Finset.card_pair event_ne.symm]
    decide
  have hsubset := (h 1).1 hcard
  rw [domainEvents_ahead, domainEvents_behind, Finset.singleton_subset_iff, Finset.mem_insert,
    Finset.mem_singleton] at hsubset
  exact hsubset.elim third_event_ne.1 third_event_ne.2

lemma countsNested_included : CountsNested ahead included := by
  have hsubset (authorityId : ControlDomainId) :
      domainEvents included authorityId ⊆ domainEvents ahead authorityId := by
    simp only [domainEvents, domainItems_of_one controlDomain_ahead,
      domainItems_of_one controlDomain_included]
    split_ifs
    · intro eventId hid
      simp only [included, ahead, mem_toFinset, map_cons, map_nil,
        mem_cons, not_mem_nil, or_false] at hid ⊢
      exact .inl hid
    · exact Finset.Subset.refl _
  refine fun authorityId => ⟨fun _ => hsubset authorityId, fun hlt => ?_⟩
  have hle := Finset.card_le_card (hsubset authorityId)
  omega

lemma oneAdmissionPerEvent_behind : OneAdmissionPerEvent behind := by
  intro i hi j hj _
  rw [mem_singleton.mp hi, mem_singleton.mp hj]

lemma oneAdmissionPerEvent_ahead : OneAdmissionPerEvent ahead := by
  intro i hi j hj hid
  simp only [ahead, mem_cons, not_mem_nil, or_false] at hi hj
  rcases hi with rfl | rfl <;> rcases hj with rfl | rfl
  · rfl
  · exact absurd hid.symm event_ne
  · exact absurd hid event_ne
  · rfl

lemma exists_build (items : List SignedEventSetItem) :
    ∃ checkpoint, buildVectorCheckpoint items 1 = .ok checkpoint :=
  ⟨_, if_neg (by decide)⟩

end Sample

theorem vector_checkpoint_causally_sound_iff_included :
    ∃ a b, buildVectorCheckpoint Sample.ahead 1 = .ok a ∧
      buildVectorCheckpoint Sample.included 1 = .ok b ∧
      CausallySound Sample.ahead Sample.included (diffVectorCheckpoints a b) := by
  obtain ⟨a, ha⟩ := Sample.exists_build Sample.ahead
  obtain ⟨b, hb⟩ := Sample.exists_build Sample.included
  exact ⟨a, b, ha, hb, (vector_checkpoint_causally_sound_iff ha hb
    Sample.digest_injOn_included).mpr Sample.countsNested_included⟩

/-- The larger of two sets with different events is reported ahead. -/
theorem larger_checkpoint_reported_ahead :
    OneAdmissionPerEvent Sample.ahead ∧ OneAdmissionPerEvent Sample.behind ∧
    Set.InjOn Sha256.digest (domainMessages Sample.ahead ∪ domainMessages Sample.behind) ∧
    ∃ a b, buildVectorCheckpoint Sample.ahead 1 = .ok a ∧
      buildVectorCheckpoint Sample.behind 1 = .ok b ∧
      ¬ CausallySound Sample.ahead Sample.behind (diffVectorCheckpoints a b) := by
  obtain ⟨a, ha⟩ := Sample.exists_build Sample.ahead
  obtain ⟨b, hb⟩ := Sample.exists_build Sample.behind
  refine ⟨Sample.oneAdmissionPerEvent_ahead, Sample.oneAdmissionPerEvent_behind,
    Sample.digest_injOn_behind, a, b, ha, hb, fun hsound => ?_⟩
  exact Sample.not_countsNested (countsNested_of_causallySound ha hb hsound)

end Nlos.Semantic
