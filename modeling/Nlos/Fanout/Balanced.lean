import Nlos.Fanout.Levels

/-!
# The balanced layout

The layout exists exactly when a tree of the allowed depth and degree has room for the leaves, and
then all leaves are at one depth.
-/

namespace Nlos.Fanout

open Lib Capability List FanoutLeafMember

namespace HierarchicalFanoutTree

variable {t : HierarchicalFanoutTree}

structure Filled (pairs : List (TaskGroupId × FanoutLeafMember)) (g : TaskGroupId)
    (node node' : SubgroupNode) : Prop where
  depth : node'.depth = node.depth
  childSubgroups : node'.childSubgroups = node.childSubgroups
  leafMembers {m} : m ∈ node'.leafMembers ↔ m ∈ node.leafMembers ∨ (g, m) ∈ pairs

/-- Leaves with fresh identities are placed when each parent has room for all of its own. -/
lemma registerLeaves_spec (ht : t.Sound)
    (hparent : ∀ p ∈ pairs.map Prod.fst, ∃ node, t.subgroup p = some node ∧
      node.localFanout + pairs.countP (·.1 = p) ≤ t.maxBranchingFactor)
    (hfresh : ∀ pair ∈ pairs, t.owningSubgroup pair.2.leafId = none)
    (hnodup : (pairs.map fun pair => pair.2.leafId).Nodup) :
    ∃ t', t.registerLeaves pairs = .ok t' ∧ Kept t t' ∧
      (∀ g, t.subgroup g = none → t'.subgroup g = none) ∧ ∀ g node, t.subgroup g = some node →
        ∃ node', t'.subgroup g = some node' ∧ Filled pairs g node node' := by
  induction pairs generalizing t with
  | nil =>
    exact ⟨t, rfl, .refl t, fun _ hg => hg, fun g node hg => ⟨node, hg, rfl, rfl, by simp⟩⟩
  | cons pair rest ih =>
    obtain ⟨p, m⟩ := pair
    simp only [map_cons, forall_mem_cons, nodup_cons] at hparent hfresh hnodup
    obtain ⟨⟨node, hnode, hfanout⟩, hrest⟩ := hparent
    have hroom : node.localFanout + 1 ≤ t.maxBranchingFactor := by
      simp only [countP_cons, decide_true, if_true] at hfanout
      omega
    have hfirst : t.registerLeaf p m = .ok (t.addLeaf p m node) :=
      registerLeaf_eq_ok.mpr ⟨hfresh.1, node, hnode, hroom, rfl⟩
    have hlookup (g : TaskGroupId) : (t.addLeaf p m node).subgroup g = _ := subgroup_addLeaf hnode
    have hnew : m.leafId ∉ node.leafMembers.map leafId :=
      ht.not_mem_leafMembers hfresh.1 hnode
    obtain ⟨t', ht', hkept, hnone, hfilled⟩ := ih (sound_of_registerLeaf ht hfirst)
      (fun q hq => by
        obtain ⟨other, hother, hroom⟩ := hrest q hq
        rw [hlookup, hother]
        refine ⟨_, rfl, ?_⟩
        simp only [SubgroupNode.localFanout, countP_cons] at hroom ⊢
        change _ ≤ t.maxBranchingFactor
        split
        · next hpq =>
          have hlength := length_insertAt_le leafId m other.leafMembers
          simp only [hpq, decide_true, if_true] at hroom
          omega
        · omega)
      (fun pair hpair => by
        have hne : m.leafId ≠ pair.2.leafId := by
          intro heq
          exact hnodup.1 (heq ▸ mem_map.mpr ⟨pair, hpair, rfl⟩)
        exact (Table.getElem?_insert_ne hne).trans (hfresh.2 pair hpair))
      hnodup.2
    have hkeptFirst : Kept t (t.addLeaf p m node) := by
      refine ⟨rfl, rfl, rfl, fun hm => ?_⟩
      intro g new hg
      obtain ⟨old, hold, rfl⟩ := Option.map_eq_some_iff.mp ((hlookup g).symm.trans hg)
      refine (hm hold).mono _ rfl fun {g node} hg => ?_
      exact ⟨_, (hlookup g).trans (congrArg (Option.map _) hg), List.Subset.refl _⟩
    refine ⟨t', ?_, hkeptFirst.trans hkept, fun g hg => ?_, fun g old hold => ?_⟩
    · have hstep : t.registerLeaves ((p, m) :: rest) =
          t.registerLeaf p m >>= fun t => t.registerLeaves rest := foldlM_cons
      rw [hstep, hfirst]
      exact ht'
    · exact hnone g (by rw [hlookup, hg]; rfl)
    · obtain ⟨node', hnode', hdepth, hchildren, hmembers⟩ :=
        hfilled g _ ((hlookup g).trans (by rw [hold]; rfl))
      refine ⟨node', hnode', hdepth, hchildren, fun {x} => ?_⟩
      rw [hmembers, mem_cons, Prod.mk.injEq]
      split
      · next hpg =>
        subst hpg
        cases hnode.symm.trans hold
        rw [mem_insertAt hnew]
        simp [or_assoc, or_left_comm]
      · next hpg => simp [Ne.symm hpg]

/-! ## The whole layout -/

/-- The hierarchy holds exactly the given leaves, each in one subgroup and all at one depth, and
its subgroups keep within the limits. -/
structure BalancedOver (t : HierarchicalFanoutTree) (B : ℕ) (D : Word 4)
    (leaves : List FanoutLeafMember) : Prop where
  leaf : ∀ m ∈ leaves, ∃! g, ∃ node, t.subgroup g = some node ∧ m ∈ node.leafMembers
  only : ∀ g node, t.subgroup g = some node → ∀ m ∈ node.leafMembers, m ∈ leaves
  fanout : ∀ g node, t.subgroup g = some node → node.localFanout ≤ B
  reached : ∀ g node, t.subgroup g = some node → node.depth ≤ D ∧ t.Reached node.depth.val g
  level : ∃ d, ∀ g node, t.subgroup g = some node → node.leafMembers ≠ [] → node.depth = d

lemma BalancedOver.of_perm {B D l l'}
    (h : t.BalancedOver B D l) (hl : l.Perm l') : t.BalancedOver B D l' := by
  refine ⟨fun m hm => h.leaf m (hl.mem_iff.mpr hm), fun g node hg m hm => ?_, h.fanout, h.reached,
    h.level⟩
  exact hl.mem_iff.mp (h.only g node hg m hm)

lemma balancedOver_of_registerLeaves {B D leaves pairs} {d : Word 4} (ht : t.Sound)
    (hlimits : t.maxBranchingFactor = B ∧ t.maxDepth = D) (hm : t.Measured)
    (hempty : t.leafToSubgroup = ∅)
    (hparent : ∀ p ∈ pairs.map Prod.fst, t.OpenAt d.val [p] ∧ pairs.countP (·.1 = p) ≤ B)
    (hleaves : (pairs.map Prod.snd).Perm leaves) (hnodup : (leaves.map leafId).Nodup) :
    ∃ t', t.registerLeaves pairs = .ok t' ∧ BalancedOver t' B D leaves := by
  have hnone (l : FanoutLeafId) : t.owningSubgroup l = none := by simp [owningSubgroup, hempty]
  have hnodup' : (pairs.map fun pair => pair.2.leafId).Nodup := by
    have hperm := hleaves.map leafId
    rw [map_map] at hperm
    exact hperm.nodup_iff.mpr hnodup
  obtain ⟨t', ht', hkept, hgone, hfilled⟩ := registerLeaves_spec ht (fun p hp => by
    obtain ⟨hopen, hcount⟩ := hparent p hp
    obtain ⟨node, hnode, -, hfanout⟩ := hopen p (mem_singleton_self p)
    exact ⟨node, hnode, by rw [hfanout, hlimits.1, Nat.zero_add]; exact hcount⟩)
    (fun pair _ => hnone _) hnodup'
  have hsound : t'.Sound := invariant_registerLeaves sound_of_registerLeaf ht ht'
  -- No subgroup held a leaf before.
  have hmembers {g : TaskGroupId} {node' : SubgroupNode} (hg : t'.subgroup g = some node') :
      ∃ node, t.subgroup g = some node ∧ node'.depth = node.depth ∧
        ∀ m, m ∈ node'.leafMembers ↔ (g, m) ∈ pairs := by
    cases hold : t.subgroup g with
    | none => simp [hgone g hold] at hg
    | some node =>
      obtain ⟨other, hother, hfill⟩ := hfilled g node hold
      cases hg.symm.trans hother
      refine ⟨node, rfl, hfill.depth, fun m => ?_⟩
      have hnot : m ∉ node.leafMembers := by
        intro hmem
        have howner := ht.leaf.mpr ⟨node, hold, mem_map.mpr ⟨m, hmem, rfl⟩⟩
        simp [hnone] at howner
      simp [hfill.leafMembers, hnot]
  refine ⟨t', ht', fun m hm => ?_, fun g node hg m hm => ?_, fun g node hg => ?_,
    fun g node hg => ?_, d, fun g node hg hne => ?_⟩
  · obtain ⟨⟨p, m'⟩, hpair, rfl⟩ := mem_map.mp (hleaves.mem_iff.mpr hm)
    obtain ⟨hopen, -⟩ := hparent p (mem_map.mpr ⟨_, hpair, rfl⟩)
    obtain ⟨node, hnode, -⟩ := hopen p (mem_singleton_self p)
    obtain ⟨node', hnode', hfill⟩ := hfilled p node hnode
    refine ⟨p, ⟨node', hnode', hfill.leafMembers.mpr (.inr hpair)⟩, ?_⟩
    rintro g ⟨other, hg, hmem⟩
    have howner := hsound.leaf.mpr ⟨other, hg, mem_map.mpr ⟨m', hmem, rfl⟩⟩
    have howner' := hsound.leaf.mpr
      ⟨node', hnode', mem_map.mpr ⟨m', hfill.leafMembers.mpr (.inr hpair), rfl⟩⟩
    exact Option.some.inj (howner.symm.trans howner')
  · obtain ⟨old, -, -, hiff⟩ := hmembers hg
    exact hleaves.mem_iff.mp (mem_map.mpr ⟨_, (hiff m).mp hm, rfl⟩)
  · rw [← hlimits.1, ← hkept.maxBranchingFactor]
    exact hsound.fanout hg
  · rw [← hlimits.2, ← hkept.maxDepth]
    exact ⟨hsound.depth hg, hkept.measured hm hg⟩
  · obtain ⟨m, rest, hcons⟩ := exists_cons_of_ne_nil hne
    obtain ⟨old, hold, hdepth, hiff⟩ := hmembers hg
    have hpair : (g, m) ∈ pairs := (hiff m).mp (by simp [hcons])
    obtain ⟨hopen, -⟩ := hparent g (mem_map.mpr ⟨_, hpair, rfl⟩)
    obtain ⟨other, hother, hd, -⟩ := hopen g (mem_singleton_self g)
    cases hold.symm.trans hother
    rw [hdepth]
    exact Fin.ext hd

section Layout

variable {root : TaskGroupId} {B : ℕ} {D : Word 4} {leaves : List FanoutLeafMember}

lemma measured_ofRoot : (ofRoot root B D).Measured := by
  intro g node hg
  rw [subgroup_ofRoot] at hg
  split at hg
  · next hroot =>
    cases hg
    exact hroot ▸ .root
  · simp at hg

lemma openAt_ofRoot : (ofRoot root B D).OpenAt 0 [root] := by
  intro g hg
  rw [subgroup_ofRoot, if_pos (mem_singleton.mp hg).symm]
  exact ⟨_, rfl, rfl, rfl⟩

lemma registerLeaves_root (root : TaskGroupId) (D : Word 4) (hshort : leaves.length ≤ B)
    (hnodup : (leaves.map leafId).Nodup) :
    ∃ t, (ofRoot root B D).registerLeaves (leaves.map fun member => (root, member)) = .ok t ∧
      t.BalancedOver B D leaves := by
  refine balancedOver_of_registerLeaves (sound_ofRoot root B D) ⟨rfl, rfl⟩ measured_ofRoot rfl
    (d := 0) (fun p hp => ?_) (by simp) hnodup
  obtain ⟨-, rfl⟩ : leaves ≠ [] ∧ p = root := by simpa using hp
  refine ⟨openAt_ofRoot, (countP_le_length).trans ?_⟩
  simpa using hshort

lemma canTake_ofRoot {top : List TaskGroupId} (hshort : top.length ≤ B)
    (hnodup : top.Nodup) (htop : ∀ g ∈ top, g ≠ root) :
    CanTake (ofRoot root B D) 0 (top.map fun child => (root, child)) := by
  refine ⟨fun p hp => ?_, fun c hc => ?_, by simpa [Function.comp_def] using hnodup⟩
  · obtain ⟨-, rfl⟩ : top ≠ [] ∧ p = root := by simpa using hp
    obtain ⟨node, hnode, hdepth, hfanout⟩ :=
      openAt_ofRoot (B := B) (D := D) p (mem_singleton_self p)
    refine ⟨node, hnode, hdepth, ?_⟩
    rw [hfanout, Nat.zero_add]
    refine (countP_le_length).trans ?_
    rw [length_map]
    exact hshort
  · have hc' : c ∈ top := by simpa [Function.comp_def] using hc
    rw [subgroup_ofRoot, if_neg (Ne.symm (htop c hc'))]

lemma length_le_of_forall_lt {l : List ℕ} (h : l.Nodup) (hlt : ∀ n ∈ l, n < bound) :
    l.length ≤ bound := by
  have hsub : l ⊆ List.range bound := fun n hn => mem_range.mpr (hlt n hn)
  simpa using (subperm_of_subset h hsub).length_le

lemma length_le_of_nodup (h : (leaves.map leafId).Nodup) : leaves.length ≤ 2 ^ 129 := by
  have hranks : ((leaves.map leafId).map FanoutLeafId.rank).Nodup :=
    h.map FanoutLeafId.rank_injective
  have hle : _ ≤ 2 ^ 129 := length_le_of_forall_lt hranks fun r hr => by
    obtain ⟨l, -, rfl⟩ := mem_map.mp hr
    have hid := l.id.isLt
    have htag : l.kindTag.toNat ≤ 1 := by cases l <;> simp [FanoutLeafId.kindTag]
    rw [FanoutLeafId.rank]
    omega
  simpa using hle

lemma lt_of_pow_lt (hB : 2 ≤ B)
    (hnodup : (leaves.map leafId).Nodup) (h : B ^ level < leaves.length) : level < 129 := by
  refine (Nat.pow_lt_pow_iff_right (by omega : 1 < 2)).mp ?_
  exact (Nat.pow_le_pow_left hB level).trans_lt (h.trans_le (length_le_of_nodup hnodup))

variable {name : ℕ → ℕ → TaskGroupId} {groups : List (TaskGroupId × List FanoutLeafMember)}
  {levels : List (List (TaskGroupId × List TaskGroupId))} {u : HierarchicalFanoutTree}

/-- What is computed for the leaves before anything is registered: the groups they go into, and
the levels above these up to a level that fits below the root. -/
structure LayoutPlan (root : TaskGroupId) (B : ℕ) (leaves : List FanoutLeafMember)
    (name : ℕ → ℕ → TaskGroupId) (groups : List (TaskGroupId × List FanoutLeafMember))
    (levels : List (List (TaskGroupId × List TaskGroupId))) : Prop where
  two_le : 2 ≤ B
  named : NamedBy root B leaves.length name
  long : B ^ (0 + 1) < leaves.length
  leafGroups : levelGroups root B 0 leaves = some groups
  fst : groups.map Prod.fst = names name leaves.length B 0
  pairs : groupPairs groups = leaves.mapIdx fun j item => (name 0 (j / B), item)
  upper : intermediateLevels root B groups.length 1 (names name leaves.length B 0) =
    some (levels, names name leaves.length B levels.length)
  width_le : width leaves.length B (levels.length + 1) ≤ B
  top_lt : B ^ (levels.length + 1) < leaves.length
  opens : OpensBelow B levels (names name leaves.length B levels.length)
    (namesFrom name leaves.length B 0 levels.length) (names name leaves.length B 0)

lemma exists_layoutPlan (hB : 2 ≤ B) (hlong : B < leaves.length)
    (hids : DerivedDistinct root B leaves.length) :
    ∃ name groups levels, LayoutPlan root B leaves name groups levels := by
  obtain ⟨name, hname⟩ := hids
  have hlevel : B ^ (0 + 1) < leaves.length := by simpa using hlong
  obtain ⟨groups, hgroups, hfst, hpairs⟩ := levelGroups_eq (by omega) hname hlevel rfl
  have hcount : groups.length = width leaves.length B 1 := by
    simpa [names] using congrArg List.length hfst
  obtain ⟨levels, hlevels, hwidth, htop, hopens⟩ :=
    intermediateLevels_spec hB hname hlevel (hcount.symm.le.trans (Nat.le_succ _))
  simp only [Nat.zero_add] at hwidth htop hopens hlevels
  exact ⟨name, groups, levels, hB, hname, hlevel, hgroups, hfst, hpairs, hlevels, hwidth, htop,
    hopens⟩

namespace LayoutPlan

variable (h : LayoutPlan root B leaves name groups levels)

include h

lemma pos : 0 < B := Nat.zero_lt_of_lt h.two_le

lemma depth_le_iff : levels.length + 1 ≤ D.val ↔ leaves.length ≤ B ^ (D.val + 1) := by
  constructor
  · intro hle
    refine ((width_le_iff h.pos).mp h.width_le).trans ?_
    rw [← Nat.pow_succ']
    exact Nat.pow_le_pow_right h.pos (by omega)
  · intro hle
    have := (Nat.pow_lt_pow_iff_right h.two_le).mp (h.top_lt.trans_le hle)
    omega

lemma placed {level : ℕ} (hle : level ≤ levels.length) : B ^ (level + 1) < leaves.length :=
  (Nat.pow_le_pow_right h.pos (by omega)).trans_lt h.top_lt

lemma ne_root {level : ℕ} (hle : level ≤ levels.length) :
    ∀ g ∈ names name leaves.length B level, g ≠ root := by
  intro g hg
  obtain ⟨i, hi, rfl⟩ := mem_names h.pos (h.placed hle) hg
  exact h.named.ne_root hi

lemma canTake : CanTake (ofRoot root B D) 0
    ((names name leaves.length B levels.length).map fun child => (root, child)) :=
  canTake_ofRoot (by simpa [names] using h.width_le) (nodup_names h.pos h.named h.top_lt)
    (h.ne_root le_rfl)

section Registered

variable (ht : (ofRoot root B D).registerSubgroups
  ((names name leaves.length B levels.length).map fun child => (root, child)) = .ok t)

include ht

lemma openAt_top : t.OpenAt 1 (names name leaves.length B levels.length) := by
  simpa [Function.comp_def] using ((registerSubgroups_spec h.canTake (by norm_num)).2 t ht).2.2.1

lemma free_below :
    ∀ g ∈ namesFrom name leaves.length B 0 levels.length, t.subgroup g = none := by
  intro g hg
  obtain ⟨i, hi, hmem⟩ := mem_flatMap.mp hg
  rw [Nat.zero_add] at hmem
  rw [mem_range] at hi
  have hne := h.ne_root hi.le g hmem
  have hnot := not_mem_names h.pos h.named (h.placed hi.le) h.top_lt hi.ne hmem
  obtain ⟨-, -, -, hframe⟩ := (registerSubgroups_spec h.canTake (by norm_num)).2 t ht
  rw [hframe g (by simp [hne]) (by simpa [Function.comp_def] using hnot), subgroup_ofRoot,
    if_neg (Ne.symm hne)]

lemma registerLeaves_balanced (hnodup : (leaves.map leafId).Nodup)
    (hu : t.registerLevels levels = .ok u) :
    u.OpenAt (1 + levels.length) (names name leaves.length B 0) ∧ u.maxDepth = D ∧ u.Sound ∧
      ∃ t', u.registerLeaves (groupPairs groups) = .ok t' ∧ t'.BalancedOver B D leaves := by
  have hsmall := lt_of_pow_lt h.two_le hnodup h.top_lt
  obtain ⟨hkept, hempty, -⟩ := (registerSubgroups_spec h.canTake (by norm_num)).2 t ht
  obtain ⟨hkept', hempty', hnames, -⟩ := h.opens.effect (h.openAt_top ht) (h.free_below ht)
    hkept.maxBranchingFactor (by omega) hu
  have hsound : u.Sound := by
    refine foldlM_invariant ?_
      (invariant_registerSubgroups sound_of_registerSubgroup (sound_ofRoot root B D) ht) hu
    intro v level v' hv hlevel
    exact invariant_registerSubgroups sound_of_registerSubgroup hv hlevel
  have hall := hkept.trans hkept'
  refine ⟨hnames, hall.maxDepth, hsound, ?_⟩
  refine balancedOver_of_registerLeaves hsound ⟨hall.maxBranchingFactor, hall.maxDepth⟩
    (hall.measured measured_ofRoot) (hempty'.trans hempty) (d := ⟨1 + levels.length, by omega⟩)
    (fun p hp => ?_) ?_ hnodup
  · rw [h.pairs] at hp ⊢
    obtain ⟨hmem, hcountP⟩ := parents_of_level h.pos h.named h.long rfl hp
    refine ⟨fun g hg => ?_, hcountP⟩
    rw [mem_singleton.mp hg]
    exact hnames p hmem
  · rw [h.pairs]
    refine List.Perm.of_eq (ext_getElem (by simp) (by simp))

end Registered

lemma layOut_eq : layOut root B D leaves = some ((ofRoot root B D).registerSubgroups
    ((names name leaves.length B levels.length).map fun child => (root, child)) >>= fun t =>
      t.registerLevels levels >>= fun t => t.registerLeaves (groupPairs groups)) := by
  have hnew : new root B D = .ok (ofRoot root B D) := new_eq_ok.mpr ⟨h.pos.ne', rfl⟩
  simp only [layOut, h.leafGroups, h.fst, h.upper, hnew, Option.bind_eq_bind, Option.bind_some,
    Option.pure_def]
  rfl

end LayoutPlan

/-- A layout succeeds exactly when the leaves fit under the depth bound, and is then balanced. -/
lemma layOut_spec (hB : 2 ≤ B) (hnodup : (leaves.map leafId).Nodup)
    (hlong : B < leaves.length) (hids : DerivedDistinct root B leaves.length) :
    ∃ r, layOut root B D leaves = some r ∧ ((∃ t, r = .ok t) ↔ leaves.length ≤ B ^ (D.val + 1)) ∧
      ∀ t, r = .ok t → t.BalancedOver B D leaves := by
  obtain ⟨name, groups, levels, h⟩ := exists_layoutPlan hB hlong hids
  refine ⟨_, h.layOut_eq, ⟨?_, fun hle => ?_⟩, fun t' ht' => ?_⟩
  · rintro ⟨t', ht'⟩
    simp only [bind_eq_ok] at ht'
    obtain ⟨t, ht, u, hu, -⟩ := ht'
    obtain ⟨hnames, hdepth, hsound, -⟩ := h.registerLeaves_balanced ht hnodup hu
    have hmem : name 0 0 ∈ names name leaves.length B 0 := by
      refine mem_map.mpr ⟨0, mem_range.mpr ((lt_width_iff h.pos).mpr ?_), rfl⟩
      omega
    obtain ⟨node, hnode, hnodeDepth, -⟩ := hnames _ hmem
    have hle : node.depth.val ≤ D.val := hdepth ▸ hsound.depth hnode
    exact h.depth_le_iff.mp (by omega)
  · have hdeep := h.depth_le_iff.mpr hle
    have hsmall := lt_of_pow_lt hB hnodup h.top_lt
    obtain ⟨hprogress, heffect⟩ := registerSubgroups_spec (h.canTake (D := D)) (by norm_num)
    obtain ⟨t, ht⟩ := hprogress (show 0 + 1 ≤ D.val by omega)
    obtain ⟨hkept, -⟩ := heffect t ht
    obtain ⟨u, hu⟩ := h.opens.progress (h.openAt_top ht) (h.free_below ht)
      hkept.maxBranchingFactor (by omega)
      (by rw [hkept.maxDepth]; exact (Nat.add_comm _ _).le.trans hdeep)
    obtain ⟨-, -, -, t', ht', -⟩ := h.registerLeaves_balanced ht hnodup hu
    exact ⟨t', by simp only [bind_eq_ok]; exact ⟨t, ht, u, hu, ht'⟩⟩
  · simp only [bind_eq_ok] at ht'
    obtain ⟨t, ht, u, hu, hlast⟩ := ht'
    obtain ⟨-, -, -, t'', ht'', hbalanced⟩ := h.registerLeaves_balanced ht hnodup hu
    cases hlast.symm.trans ht''
    exact hbalanced

lemma repeatedLeaf?_eq_none (h : (l.map leafId).Nodup) : repeatedLeaf? l = none := by
  induction l using repeatedLeaf?.induct with
  | case1 a b rest heq => simp [heq] at h
  | case2 a b rest hne ih =>
    rw [repeatedLeaf?, if_neg hne]
    exact ih (nodup_cons.mp h).2
  | case3 l hshort => rw [repeatedLeaf?]; exact hshort

/-- The leaves are sorted before anything else, so their order does not matter. -/
lemma mergeSort_eq_of_perm {leaves' : List FanoutLeafMember} (h : leaves'.Perm leaves)
    (hnodup : (leaves.map leafId).Nodup) : leaves'.mergeSort (fun m m' => m.leafId ≤ m'.leafId) =
      leaves.mergeSort (fun m m' => m.leafId ≤ m'.leafId) := by
  have hsorted (l : List FanoutLeafMember) :
      (l.mergeSort fun m m' => m.leafId ≤ m'.leafId).Pairwise fun m m' => m.leafId ≤ m'.leafId := by
    have htrans (a b c : FanoutLeafMember) (hab : decide (a.leafId ≤ b.leafId) = true)
        (hbc : decide (b.leafId ≤ c.leafId) = true) : decide (a.leafId ≤ c.leafId) = true :=
      decide_eq_true ((of_decide_eq_true hab).trans (of_decide_eq_true hbc))
    have htotal (a b : FanoutLeafMember) :
        (decide (a.leafId ≤ b.leafId) || decide (b.leafId ≤ a.leafId)) = true := by
      simpa using le_total a.leafId b.leafId
    simpa using pairwise_mergeSort htrans htotal l
  have hperm := ((mergeSort_perm leaves' fun m m' => m.leafId ≤ m'.leafId).trans h).trans
    (mergeSort_perm leaves fun m m' => m.leafId ≤ m'.leafId).symm
  refine hperm.eq_of_pairwise (fun m m' hm hm' hle hle' => ?_) (hsorted leaves') (hsorted leaves)
  have hmem : m ∈ leaves := h.mem_iff.mp ((mergeSort_perm leaves' _).mem_iff.mp hm)
  have hmem' : m' ∈ leaves := (mergeSort_perm leaves _).mem_iff.mp hm'
  exact inj_on_of_nodup_map hnodup hmem hmem' (le_antisymm hle hle')

/-- With distinct leaves and distinct derived identifiers, the balanced layout exists exactly when
a tree of degree `B` and depth `D` has room for the leaves. Then every leaf is in exactly one
subgroup, as it was given, every subgroup keeps within the degree and is reached from the root
within the depth, and all leaves are at one depth. The order of the leaves does not matter. -/
theorem balanced_construction (root : TaskGroupId) (B : ℕ) (hB : 2 ≤ B) (D : Word 4)
    (leaves : List FanoutLeafMember) (hnodup : (leaves.map FanoutLeafMember.leafId).Nodup)
    (hids : DerivedDistinct root B leaves.length) :
    ((∃ t, buildBalanced root B D leaves = some (.ok t)) ↔ leaves.length ≤ B ^ (D.val + 1)) ∧
    (∀ t, buildBalanced root B D leaves = some (.ok t) → t.BalancedOver B D leaves) ∧
    ∀ leaves', leaves'.Perm leaves →
      buildBalanced root B D leaves' = buildBalanced root B D leaves := by
  have hperm := mergeSort_perm leaves fun m m' => m.leafId ≤ m'.leafId
  have hsorted : ((leaves.mergeSort fun m m' => m.leafId ≤ m'.leafId).map
      FanoutLeafMember.leafId).Nodup := (hperm.map _).nodup_iff.mpr hnodup
  have hfew : ¬(B < leaves.length ∧ B < 2) := by omega
  have hbuild : ∃ r, buildBalanced root B D leaves = some r ∧
      ((∃ t, r = .ok t) ↔ leaves.length ≤ B ^ (D.val + 1)) ∧
      ∀ t, r = .ok t → t.BalancedOver B D leaves := by
    have hpos : B ≠ 0 := by omega
    simp only [buildBalanced, if_neg hpos, if_neg hfew, repeatedLeaf?_eq_none hsorted]
    have hnew : new root B D = .ok (ofRoot root B D) := new_eq_ok.mpr ⟨hpos, rfl⟩
    split
    · next hshort =>
      obtain ⟨t, ht, hbalanced⟩ := registerLeaves_root root D hshort hsorted
      refine ⟨.ok t, by rw [hnew]; exact congrArg some ht, iff_of_true ⟨t, rfl⟩ ?_, ?_⟩
      · calc leaves.length = _ := hperm.length_eq.symm
          _ ≤ B := hshort
          _ ≤ B ^ (D.val + 1) := Nat.le_self_pow (by omega) B
      · rintro t' ⟨⟩
        exact hbalanced.of_perm hperm
    · next hlong =>
      rw [← hperm.length_eq] at hids ⊢
      obtain ⟨r, hr, hiff, hbalanced⟩ := layOut_spec (D := D) hB hsorted (not_le.mp hlong) hids
      exact ⟨r, hr, hiff, fun t ht => (hbalanced t ht).of_perm hperm⟩
  obtain ⟨r, hr, hiff, hbalanced⟩ := hbuild
  refine ⟨by simpa [hr] using hiff, fun t ht => ?_, fun leaves' hleaves' => ?_⟩
  · exact hbalanced t (Option.some.inj (hr.symm.trans ht))
  · simp only [buildBalanced, mergeSort_eq_of_perm hleaves' hnodup, hleaves'.length_eq]

def threeLeaves : List FanoutLeafMember :=
  [⟨.taskAttempt 2, 0⟩, ⟨.taskAttempt 1, 0⟩, ⟨.agentInstance 1, 0⟩]

def twoNames (_ i : ℕ) : TaskGroupId :=
  if i = 0 then 287885822627989239302979716474275427519
  else 250504755618277479744156837973567042389

lemma namedBy_twoNames : NamedBy 0 2 3 twoNames := by
  have hplaced {level i : ℕ} (h : Placed 3 2 level i) : level = 0 ∧ (i = 0 ∨ i = 1) := by
    obtain ⟨hlevel, hi⟩ := h
    have hzero : level = 0 := by
      by_contra hne
      have : 2 ^ 2 ≤ 2 ^ (level + 1) := Nat.pow_le_pow_right (by omega) (by omega)
      omega
    subst hzero
    omega
  have hfirst : ∀ i ∈ [0, 1], deriveIntermediateSubgroupId 0 (saturated 4 0) i =
      some (twoNames 0 i) := by decide +kernel
  refine ⟨fun h => ?_, fun h h' heq => ?_⟩
  · obtain ⟨rfl, hi⟩ := hplaced h
    exact hfirst _ (by simpa using hi)
  · obtain ⟨rfl, rfl | rfl⟩ := hplaced h <;> obtain ⟨rfl, rfl | rfl⟩ := hplaced h' <;>
      first | exact ⟨rfl, rfl⟩ | exact absurd heq (by decide)

theorem balanced_construction_three_leaves :
    ∃ t, buildBalanced 0 2 1 threeLeaves = some (.ok t) ∧ t.BalancedOver 2 1 threeLeaves := by
  obtain ⟨hiff, hbalanced, -⟩ :=
    balanced_construction 0 2 le_rfl 1 threeLeaves (by decide) ⟨twoNames, namedBy_twoNames⟩
  obtain ⟨t, ht⟩ := hiff.mpr (by decide)
  exact ⟨t, ht, hbalanced t ht⟩

end Layout

end HierarchicalFanoutTree

end Nlos.Fanout
