import Nlos.Fanout.Tree

/-!
# The shape of a hierarchy

However a hierarchy comes about, parents and children name each other, every leaf is listed in
the subgroup that owns it, and degrees and depths stay within their limits.
-/

namespace Nlos.Fanout

open Lib Capability FanoutLeafMember

namespace HierarchicalFanoutTree

variable {t t' : HierarchicalFanoutTree} {p c g : TaskGroupId} {m : FanoutLeafMember}

lemma registerSubgroup_eq_ok : t.registerSubgroup p c = .ok t' ↔
    p ≠ c ∧ t.subgroup c = none ∧ ∃ parent, t.subgroup p = some parent ∧
      parent.depth.saturatingAdd 1 ≤ t.maxDepth ∧
      parent.localFanout + 1 ≤ t.maxBranchingFactor ∧ t' = t.addSubgroup p c parent := by
  simp only [registerSubgroup, bind_eq_ok, refuseIf_eq_ok, orRefuse_eq_ok, pure_eq_ok, not_lt,
    exists_const, Bool.not_eq_true, subgroup, ← Std.ExtTreeMap.isSome_getElem?_eq_contains,
    Option.isSome_eq_false_iff, Option.isNone_iff_eq_none, eq_comm (a := t'), ne_eq]

lemma registerLeaf_eq_ok : t.registerLeaf g m = .ok t' ↔
    t.owningSubgroup m.leafId = none ∧ ∃ node, t.subgroup g = some node ∧
      node.localFanout + 1 ≤ t.maxBranchingFactor ∧ t' = t.addLeaf g m node := by
  simp only [registerLeaf, bind_eq_ok, refuseIf_eq_ok, orRefuse_eq_ok, pure_eq_ok, not_lt,
    exists_const, Bool.not_eq_true, owningSubgroup, ← Std.ExtTreeMap.isSome_getElem?_eq_contains,
    Option.isSome_eq_false_iff, Option.isNone_iff_eq_none, eq_comm (a := t')]

lemma new_eq_ok {rootGroupId maxBranchingFactor maxDepth} :
    new rootGroupId maxBranchingFactor maxDepth = .ok t ↔
      maxBranchingFactor ≠ 0 ∧ t = ofRoot rootGroupId maxBranchingFactor maxDepth := by
  simp only [new, bind_eq_ok, refuseIf_eq_ok, pure_eq_ok, exists_const, eq_comm (a := t), ne_eq]

lemma subgroup_ofRoot :
    (ofRoot root B D).subgroup g = if root = g then some ⟨root, none, 0, [], []⟩ else none := by
  simp [ofRoot, subgroup, Table.getElem?_insert_eq]

lemma subgroup_addSubgroup (hparent : t.subgroup p = some parent) :
    (t.addSubgroup p c parent).subgroup g =
      if c = g then some ⟨c, some p, parent.depth.saturatingAdd 1, [], []⟩
      else (t.subgroup g).map fun old => { old with
        childSubgroups := if p = g then insertAt id c old.childSubgroups
          else old.childSubgroups } := by
  simp only [addSubgroup, subgroup, Table.getElem?_insert_eq] at hparent ⊢
  split
  · rfl
  · split
    · next hp => simp [← hp, hparent]
    · simp

lemma subgroup_addLeaf (hnode : t.subgroup p = some node) :
    (t.addLeaf p m node).subgroup g = (t.subgroup g).map fun old => { old with
      leafMembers := if p = g then insertAt leafId m old.leafMembers else old.leafMembers } := by
  simp only [addLeaf, subgroup, Table.getElem?_insert_eq] at hnode ⊢
  split
  · next hp => simp [← hp, hnode]
  · simp

section InsertAt

variable {α κ : Type} [LinearOrder κ] {key : α → κ} {a : α} {l : List α}

lemma insertAt_perm (h : key a ∉ l.map key) : (insertAt key a l).Perm (a :: l) := by
  rw [insertAt, if_neg h]
  exact List.perm_orderedInsert _ a l

lemma mem_insertAt (h : key a ∉ l.map key) : b ∈ insertAt key a l ↔ b = a ∨ b ∈ l := by
  rw [(insertAt_perm h).mem_iff, List.mem_cons]

variable (key a l) in
lemma length_insertAt_le : (insertAt key a l).length ≤ l.length + 1 := by
  unfold insertAt
  split
  · omega
  · rw [List.orderedInsert_length]

end InsertAt

/-- What one registration preserves, a list of them preserves. -/
lemma invariant_registerSubgroups {P : HierarchicalFanoutTree → Prop}
    (hsubgroup : ∀ {t t' p c}, P t → t.registerSubgroup p c = .ok t' → P t') (ht : P t)
    (h : t.registerSubgroups pairs = .ok t') : P t' :=
  foldlM_invariant hsubgroup ht h

lemma invariant_registerLeaves {P : HierarchicalFanoutTree → Prop}
    (hleaf : ∀ {t t' g m}, P t → t.registerLeaf g m = .ok t' → P t') (ht : P t)
    (h : t.registerLeaves pairs = .ok t') : P t' :=
  foldlM_invariant hleaf ht h

/-- Subgroups and leaves are linked both ways, within the limits of the hierarchy. -/
structure Sound (t : HierarchicalFanoutTree) : Prop where
  root : ∃ node, t.subgroup t.rootGroupId = some node ∧ node.parentGroupId = none
  keyed {g node} : t.subgroup g = some node → node.groupId = g
  fanout {g node} : t.subgroup g = some node → node.localFanout ≤ t.maxBranchingFactor
  depth {g node} : t.subgroup g = some node → node.depth ≤ t.maxDepth
  child {g node c} : t.subgroup g = some node → c ∈ node.childSubgroups →
    ∃ below, t.subgroup c = some below ∧ below.parentGroupId = some g ∧
      below.depth = node.depth.saturatingAdd 1
  parent {g node p} : t.subgroup g = some node → node.parentGroupId = some p →
    ∃ above, t.subgroup p = some above ∧ g ∈ above.childSubgroups
  leaf {l g} : t.owningSubgroup l = some g ↔
    ∃ node, t.subgroup g = some node ∧ l ∈ node.leafMembers.map FanoutLeafMember.leafId

lemma sound_ofRoot (root : TaskGroupId) (B : ℕ) (D : Word 4) : (ofRoot root B D).Sound := by
  have hcases {g : TaskGroupId} {node : SubgroupNode}
      (hg : (ofRoot root B D).subgroup g = some node) :
      root = g ∧ node = ⟨root, none, 0, [], []⟩ := by
    rw [subgroup_ofRoot] at hg
    split at hg
    · next hroot => exact ⟨hroot, (Option.some.inj hg).symm⟩
    · simp at hg
  refine ⟨⟨_, subgroup_ofRoot.trans (if_pos rfl), rfl⟩, ?_, ?_, ?_, ?_, ?_, ?_⟩
  · rintro g node hg
    obtain ⟨rfl, rfl⟩ := hcases hg
    rfl
  · rintro g node hg
    obtain ⟨-, rfl⟩ := hcases hg
    simp [SubgroupNode.localFanout]
  · rintro g node hg
    obtain ⟨-, rfl⟩ := hcases hg
    exact Fin.zero_le _
  · rintro g node c hg hc
    obtain ⟨-, rfl⟩ := hcases hg
    simp at hc
  · rintro g node p hg hp
    obtain ⟨-, rfl⟩ := hcases hg
    simp at hp
  · rintro l g
    constructor
    · intro hl
      simp [ofRoot, owningSubgroup] at hl
    · rintro ⟨node, hg, hl⟩
      obtain ⟨-, rfl⟩ := hcases hg
      simp at hl

lemma Sound.not_mem_childSubgroups (ht : t.Sound) {parent}
    (hfresh : t.subgroup c = none) (hparent : t.subgroup p = some parent) :
    c ∉ parent.childSubgroups := by
  intro hc
  obtain ⟨below, hbelow, -⟩ := ht.child hparent hc
  simp [hfresh] at hbelow

lemma Sound.not_mem_leafMembers (ht : t.Sound)
    (hfresh : t.owningSubgroup m.leafId = none) (hnode : t.subgroup g = some node) :
    m.leafId ∉ node.leafMembers.map leafId := by
  intro hm
  have howner := ht.leaf.mpr ⟨node, hnode, hm⟩
  simp [hfresh] at howner

/-- A new subgroup hangs below its parent, one level deeper. -/
lemma sound_of_registerSubgroup (ht : t.Sound) (h : t.registerSubgroup p c = .ok t') :
    t'.Sound := by
  obtain ⟨hne, hfresh, parent, hparent, hdepth, hfanout, rfl⟩ := registerSubgroup_eq_ok.mp h
  have hnew : c ∉ parent.childSubgroups := ht.not_mem_childSubgroups hfresh hparent
  have hlookup (g : TaskGroupId) := subgroup_addSubgroup (c := c) (g := g) hparent
  -- Every node but the new one is an old one, with the new child at its parent.
  have hold {g : TaskGroupId} {old : SubgroupNode} (hg : t.subgroup g = some old) :
      (t.addSubgroup p c parent).subgroup g = some { old with
        childSubgroups := if p = g then insertAt id c old.childSubgroups
          else old.childSubgroups } := by
    have hcg : c ≠ g := by
      rintro rfl
      simp [hfresh] at hg
    rw [hlookup, if_neg hcg, hg]
    rfl
  have hcases {g : TaskGroupId} {node : SubgroupNode}
      (hg : (t.addSubgroup p c parent).subgroup g = some node) :
      (c = g ∧ node = ⟨c, some p, parent.depth.saturatingAdd 1, [], []⟩) ∨
        ∃ old, t.subgroup g = some old ∧ node = { old with
          childSubgroups := if p = g then insertAt id c old.childSubgroups
            else old.childSubgroups } := by
    rw [hlookup] at hg
    split at hg
    · next hc => exact .inl ⟨hc, (Option.some.inj hg).symm⟩
    · obtain ⟨old, hold, rfl⟩ := Option.map_eq_some_iff.mp hg
      exact .inr ⟨old, hold, rfl⟩
  have hmem {g x : TaskGroupId} {old : SubgroupNode} (hg : t.subgroup g = some old) :
      (x ∈ if p = g then insertAt id c old.childSubgroups else old.childSubgroups) ↔
        x ∈ old.childSubgroups ∨ (p = g ∧ x = c) := by
    split
    · next hp =>
      subst hp
      rw [mem_insertAt (by simpa using ht.not_mem_childSubgroups hfresh hg)]
      simp [or_comm]
    · next hp => simp [hp]
  refine ⟨?_, ?_, ?_, ?_, ?_, ?_, ?_⟩
  · obtain ⟨node, hroot, hnone⟩ := ht.root
    exact ⟨_, hold hroot, hnone⟩
  · rintro g node hg
    obtain ⟨rfl, rfl⟩ | ⟨old, hat, rfl⟩ := hcases hg
    · rfl
    · exact (ht.keyed hat :)
  · rintro g node hg
    obtain ⟨rfl, rfl⟩ | ⟨old, hat, rfl⟩ := hcases hg
    · simp [SubgroupNode.localFanout]
    · have hbound := ht.fanout hat
      simp only [SubgroupNode.localFanout] at hbound hfanout ⊢
      split
      · next hp =>
        subst hp
        cases hparent.symm.trans hat
        have hlength := length_insertAt_le id c parent.childSubgroups
        change _ ≤ t.maxBranchingFactor
        omega
      · exact hbound
  · rintro g node hg
    obtain ⟨rfl, rfl⟩ | ⟨old, hat, rfl⟩ := hcases hg
    · exact hdepth
    · exact (ht.depth hat :)
  · rintro g node x hg hx
    obtain ⟨rfl, rfl⟩ | ⟨old, hat, rfl⟩ := hcases hg
    · simp at hx
    · rcases (hmem hat).mp hx with hx | ⟨rfl, rfl⟩
      · obtain ⟨below, hbelow, hup, hbelowDepth⟩ := ht.child hat hx
        exact ⟨_, hold hbelow, hup, hbelowDepth⟩
      · cases hparent.symm.trans hat
        exact ⟨_, (hlookup x).trans (if_pos rfl), rfl, rfl⟩
  · rintro g node q hg hq
    obtain ⟨rfl, rfl⟩ | ⟨old, hat, rfl⟩ := hcases hg
    · cases hq
      exact ⟨_, hold hparent, (hmem hparent).mpr (.inr ⟨rfl, rfl⟩)⟩
    · obtain ⟨above, habove, hdown⟩ := ht.parent hat hq
      exact ⟨_, hold habove, (hmem habove).mpr (.inl hdown)⟩
  · rintro l g
    refine ht.leaf.trans ⟨?_, ?_⟩
    · rintro ⟨node, hg, hl⟩
      exact ⟨_, hold hg, hl⟩
    · rintro ⟨node, hg, hl⟩
      obtain ⟨rfl, rfl⟩ | ⟨old, hat, rfl⟩ := hcases hg
      · simp at hl
      · exact ⟨old, hat, hl⟩

/-- A new leaf has one owner. -/
lemma sound_of_registerLeaf (ht : t.Sound) (h : t.registerLeaf p m = .ok t') : t'.Sound := by
  obtain ⟨hfresh, node, hnode, hfanout, rfl⟩ := registerLeaf_eq_ok.mp h
  have hlookup (g : TaskGroupId) := subgroup_addLeaf (m := m) (g := g) hnode
  have hold {g : TaskGroupId} {old : SubgroupNode} (hg : t.subgroup g = some old) :=
    (hlookup g).trans (congrArg (Option.map _) hg)
  have hcases {g : TaskGroupId} {new : SubgroupNode}
      (hg : (t.addLeaf p m node).subgroup g = some new) :=
    Option.map_eq_some_iff.mp ((hlookup g).symm.trans hg)
  refine ⟨?_, ?_, ?_, ?_, ?_, ?_, ?_⟩
  · obtain ⟨node, hroot, hnone⟩ := ht.root
    exact ⟨_, hold hroot, hnone⟩
  · rintro g node hg
    obtain ⟨old, hat, rfl⟩ := hcases hg
    exact (ht.keyed hat :)
  · rintro g new hg
    obtain ⟨old, hat, rfl⟩ := hcases hg
    have hbound := ht.fanout hat
    simp only [SubgroupNode.localFanout] at hbound hfanout ⊢
    split
    · next hp =>
      subst hp
      cases hnode.symm.trans hat
      have hlength := length_insertAt_le leafId m node.leafMembers
      change _ ≤ t.maxBranchingFactor
      omega
    · exact hbound
  · rintro g node hg
    obtain ⟨old, hat, rfl⟩ := hcases hg
    exact (ht.depth hat :)
  · rintro g node x hg hx
    obtain ⟨old, hat, rfl⟩ := hcases hg
    obtain ⟨below, hbelow, hup, hdepth⟩ := ht.child hat hx
    exact ⟨_, hold hbelow, hup, hdepth⟩
  · rintro g node q hg hq
    obtain ⟨old, hat, rfl⟩ := hcases hg
    obtain ⟨above, habove, hdown⟩ := ht.parent hat hq
    exact ⟨_, hold habove, hdown⟩
  · rintro l g
    have howner : (t.addLeaf p m node).owningSubgroup l =
        if m.leafId = l then some p else t.owningSubgroup l := Table.getElem?_insert_eq _ _ _ _
    have hnew := ht.not_mem_leafMembers hfresh hnode
    rw [howner]
    constructor
    · intro hl
      split at hl
      · next hml =>
        cases hl
        refine ⟨_, hold hnode, ?_⟩
        simp only [if_true, ((insertAt_perm hnew).map leafId).mem_iff, ← hml]
        simp
      · obtain ⟨old, hg, hmem⟩ := ht.leaf.mp hl
        refine ⟨_, hold hg, ?_⟩
        split
        · next hp =>
          subst hp
          cases hnode.symm.trans hg
          rw [((insertAt_perm hnew).map _).mem_iff]
          exact List.mem_cons_of_mem _ hmem
        · exact hmem
    · rintro ⟨new, hg, hmem⟩
      obtain ⟨old, hat, rfl⟩ := hcases hg
      have howns {l : FanoutLeafId} (hl : l ∈ old.leafMembers.map leafId) :
          (if m.leafId = l then some p else t.owningSubgroup l) = some g := by
        have hown := ht.leaf.mpr ⟨old, hat, hl⟩
        rw [if_neg, hown]
        rintro rfl
        simp [hfresh] at hown
      split at hmem
      · next hp =>
        subst hp
        cases hnode.symm.trans hat
        rw [((insertAt_perm hnew).map _).mem_iff, List.map_cons, List.mem_cons] at hmem
        rcases hmem with rfl | hmem
        · rw [if_pos rfl]
        · exact howns hmem
      · exact howns hmem

/-! ## Topologies -/

/-- The walk over the edges only registers subgroups. -/
lemma invariant_attach {P : HierarchicalFanoutTree → Prop}
    (hsubgroup : ∀ {t t' p c}, P t → t.registerSubgroup p c = .ok t' → P t') {children}
    (ht : P start.1) (h : attach children n queue start = .ok reached) : P reached.1 := by
  induction n generalizing queue start with
  | zero =>
    cases h
    exact ht
  | succ n ih =>
    cases queue with
    | nil =>
      cases h
      exact ht
    | cons parentId queue =>
      obtain ⟨t, hregister, hrest⟩ := bind_eq_ok.mp h
      exact ih (invariant_registerSubgroups hsubgroup ht hregister) hrest

def SoundWithin (root : TaskGroupId) (B : ℕ) (D : Word 4) (t : HierarchicalFanoutTree) : Prop :=
  t.Sound ∧ t.rootGroupId = root ∧ t.maxBranchingFactor = B ∧ t.maxDepth = D

/-- An accepted topology is a sound hierarchy with the given root, within the given limits. -/
theorem fromTopology_sound (h : fromTopology root B D edges leafAssignments = .ok t) :
    t.SoundWithin root B D := by
  simp only [fromTopology, bind_eq_ok, new_eq_ok] at h
  obtain ⟨-, -, -, -, -, -, -, -, t₀, ⟨-, rfl⟩, reached, hattach, -, -, hleaves⟩ := h
  have hroot : (ofRoot root B D).SoundWithin root B D := ⟨sound_ofRoot root B D, rfl, rfl, rfl⟩
  refine invariant_registerLeaves ?_ (invariant_attach ?_ hroot hattach) hleaves
  · rintro t t' g m ⟨ht, hlimits⟩ hstep
    have hsound := sound_of_registerLeaf ht hstep
    obtain ⟨-, node, -, -, rfl⟩ := registerLeaf_eq_ok.mp hstep
    exact ⟨hsound, hlimits⟩
  · rintro t t' p c ⟨ht, hlimits⟩ hstep
    have hsound := sound_of_registerSubgroup ht hstep
    obtain ⟨-, -, parent, -, -, -, rfl⟩ := registerSubgroup_eq_ok.mp hstep
    exact ⟨hsound, hlimits⟩

theorem fromTopology_sound_two :
    ∃ t, fromTopology 1 2 1 [⟨1, 2⟩] [(2, ⟨.taskAttempt 7, 0⟩)] = .ok t ∧ t.SoundWithin 1 2 1 := by
  have hall : ascendingSet [1, 1, 2] = [1, 2] := by simp [ascendingSet, Finset.sort_insert]
  have hchildren : ascendingSet [2] = [2] := by simp [ascendingSet]
  have hok : (fromTopology 1 2 1 [⟨1, 2⟩] [(2, ⟨.taskAttempt 7, 0⟩)]).isOk = true := by
    simp only [fromTopology, List.flatMap_cons, List.flatMap_nil, List.map_cons, List.map_nil,
      List.append_nil, hall, hchildren]
    decide +kernel
  cases h : fromTopology 1 2 1 [⟨1, 2⟩] [(2, ⟨.taskAttempt 7, 0⟩)] with
  | error e => simp [h, Except.isOk, Except.toBool] at hok
  | ok t => exact ⟨t, rfl, fromTopology_sound h⟩

end HierarchicalFanoutTree

end Nlos.Fanout
