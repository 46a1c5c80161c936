import Nlos.Fanout.TreeSound

/-!
# The levels of a balanced layout

The leaves are cut into chunks of the branching factor, the chunks become subgroups, and the
subgroups are chunked in turn until they fit the root.
-/

namespace Nlos.Fanout

open Lib Capability List

variable {level : ℕ} {g p : TaskGroupId} {parent : SubgroupNode}

section Chunks

variable {α β : Type} {size : ℕ}

lemma lt_ceil_iff (hsize : 0 < size) : i < (n + size - 1) / size ↔ i * size < n := by
  rw [← Nat.succ_le_iff, Nat.le_div_iff_mul_le hsize, Nat.succ_mul]
  omega

lemma flatMap_chunks (hsize : 0 < size) (f : ℕ → α → β) (l : List α) :
    ((range ((l.length + size - 1) / size)).flatMap fun i =>
      ((l.drop (i * size)).take size).map (f i)) = l.mapIdx fun j a => f (j / size) a := by
  have hstep (n : ℕ) : ((range n).flatMap fun i => ((l.drop (i * size)).take size).map (f i)) =
      (l.take (n * size)).mapIdx fun j a => f (j / size) a := by
    induction n with
    | zero => simp
    | succ n ih =>
      rw [range_succ, flatMap_append, ih, Nat.succ_mul, take_add, mapIdx_append]
      congr 1
      rw [flatMap_singleton]
      refine ext_getElem (by simp) fun j hj hj' => ?_
      simp only [length_map, length_take, length_drop] at hj
      have hlength : (l.take (n * size)).length = n * size := by
        rw [length_take]
        omega
      have hdiv : (j + n * size) / size = n := by
        rw [Nat.add_mul_div_right _ _ hsize, Nat.div_eq_of_lt (by omega), Nat.zero_add]
      simp [hlength, hdiv]
  rw [hstep, take_of_length_le]
  by_contra hlt
  have := (lt_ceil_iff hsize).mpr (not_le.mp hlt)
  omega

lemma countP_div_le (hsize : 0 < size) (n q : ℕ) :
    (range n).countP (fun i => i / size = q) ≤ size := by
  have hsub : ((range n).filter fun i => i / size = q) ⊆ range' (q * size) size := by
    intro i hi
    have hdiv : i / size = q := by simpa using (mem_filter.mp hi).2
    have hmod := Nat.mod_lt i hsize
    have hsplit := Nat.div_add_mod i size
    rw [hdiv, Nat.mul_comm] at hsplit
    rw [mem_range'_1]
    omega
  have hle := (subperm_of_subset (nodup_range.filter _) hsub).length_le
  rwa [← countP_eq_length_filter, length_range'] at hle

end Chunks

/-- How many items there are at a level when `n` items are grouped by `size` again and again. -/
def width (n size : ℕ) : ℕ → ℕ
  | 0 => n
  | level + 1 => (width n size level + size - 1) / size

lemma lt_width_iff (hsize : 0 < size) :
    i < width n size level ↔ i * size ^ level < n := by
  induction level generalizing i with
  | zero => simp [width]
  | succ level ih => rw [width, lt_ceil_iff hsize, ih, Nat.pow_succ', Nat.mul_assoc]

lemma width_le_iff (hsize : 0 < size) :
    width n size level ≤ m ↔ n ≤ m * size ^ level := by
  rw [← not_lt, ← not_lt, lt_width_iff hsize]

/-- The subgroup at a place of a level is part of the layout of `n` leaves. -/
def Placed (n size level i : ℕ) : Prop := size ^ (level + 1) < n ∧ i * size ^ (level + 1) < n

structure NamedBy (rootGroupId : TaskGroupId) (size n : ℕ) (name : ℕ → ℕ → TaskGroupId) :
    Prop where
  derived {level i} : Placed n size level i →
    deriveIntermediateSubgroupId rootGroupId (saturated 4 level) i = some (name level i)
  distinct {level i level' i'} : Placed n size level i → Placed n size level' i' →
    name level i = name level' i' → level = level' ∧ i = i'

def DerivedDistinct (rootGroupId : TaskGroupId) (size n : ℕ) : Prop :=
  ∃ name, NamedBy rootGroupId size n name

def names (name : ℕ → ℕ → TaskGroupId) (n size level : ℕ) : List TaskGroupId :=
  (List.range (width n size (level + 1))).map (name level)

lemma mapM_eq_some {α β : Type} {f : α → Option β} {g} {l : List α}
    (h : ∀ a ∈ l, f a = some (g a)) : l.mapM f = some (l.map g) := by
  induction l with
  | nil => rfl
  | cons a l ih =>
    rw [forall_mem_cons] at h
    rw [mapM_cons, h.1, ih h.2]
    rfl

lemma deriveFrom_ne {root level chunk n nonce gid}
    (h : deriveFrom root level chunk n nonce = some gid) : gid ≠ root := by
  induction n generalizing nonce with
  | zero => simp [deriveFrom] at h
  | succ n ih =>
    rw [deriveFrom] at h
    split_ifs at h with hne
    · exact Option.some.inj h ▸ hne
    · exact ih h

section Naming

variable {root : TaskGroupId} {B n : ℕ} {name : ℕ → ℕ → TaskGroupId}

lemma NamedBy.ne_root (hname : NamedBy root B n name) {i}
    (h : Placed n B level i) : name level i ≠ root := by
  have hderived := hname.derived h
  unfold deriveIntermediateSubgroupId at hderived
  exact deriveFrom_ne hderived

lemma levelGroups_eq {α : Type} (hB : 0 < B) (hname : NamedBy root B n name)
    (hlevel : B ^ (level + 1) < n) {items : List α} (hitems : items.length = width n B level) :
    ∃ groups, levelGroups root B (saturated 4 level) items = some groups ∧
      groups.map Prod.fst = names name n B level ∧
      groupPairs groups = items.mapIdx fun j item => (name level (j / B), item) := by
  refine ⟨(range (width n B (level + 1))).map fun i =>
    (name level i, (items.drop (i * B)).take B), ?_, by simp [names], ?_⟩
  · have hzip : (chunks B items).zipIdx = (range (width n B (level + 1))).map fun i =>
        ((items.drop (i * B)).take B, i) := by
      refine ext_getElem (by simp [chunks, hitems, width]) fun i hi hi' => ?_
      simp [chunks]
    rw [levelGroups, hzip, mapM_map]
    refine mapM_eq_some fun i hi => ?_
    have hplaced : Placed n B level i :=
      ⟨hlevel, (lt_width_iff hB).mp (mem_range.mp hi)⟩
    rw [Function.comp_apply, hname.derived hplaced, Option.map_some]
  · rw [groupPairs, flatMap_map, ← flatMap_chunks hB fun i item => (name level i, item), hitems]
    rfl

end Naming

/-! ## Registering a level -/

namespace HierarchicalFanoutTree

variable {t t' u : HierarchicalFanoutTree} {d : ℕ}

/-- A subgroup is reached from the root along children in the given number of steps. -/
inductive Reached (t : HierarchicalFanoutTree) : ℕ → TaskGroupId → Prop
  | root : Reached t 0 t.rootGroupId
  | child {n g node c} : Reached t n g → t.subgroup g = some node → c ∈ node.childSubgroups →
      Reached t (n + 1) c

/-- Every subgroup is reached in as many steps as its depth says. -/
def Measured (t : HierarchicalFanoutTree) : Prop :=
  ∀ {g node}, t.subgroup g = some node → t.Reached node.depth.val g

/-- What registrations do not touch, beyond the subgroups. -/
structure Kept (t t' : HierarchicalFanoutTree) : Prop where
  rootGroupId : t'.rootGroupId = t.rootGroupId
  maxBranchingFactor : t'.maxBranchingFactor = t.maxBranchingFactor
  maxDepth : t'.maxDepth = t.maxDepth
  measured : t.Measured → t'.Measured

lemma Kept.refl (t : HierarchicalFanoutTree) : Kept t t := ⟨rfl, rfl, rfl, id⟩

lemma Kept.trans (h : Kept t t') (h' : Kept t' u) : Kept t u :=
  ⟨h'.rootGroupId.trans h.rootGroupId, h'.maxBranchingFactor.trans h.maxBranchingFactor,
    h'.maxDepth.trans h.maxDepth, fun hm => h'.measured (h.measured hm)⟩

/-- The subgroups are there, at one depth and with nothing below them. -/
def OpenAt (t : HierarchicalFanoutTree) (d : ℕ) (ids : List TaskGroupId) : Prop :=
  ∀ g ∈ ids, ∃ node, t.subgroup g = some node ∧ node.depth.val = d ∧ node.localFanout = 0

lemma Reached.mono (h : t.Reached n g) (u : HierarchicalFanoutTree)
    (hroot : u.rootGroupId = t.rootGroupId) (hgrow : ∀ {g node}, t.subgroup g = some node →
      ∃ node', u.subgroup g = some node' ∧ node.childSubgroups ⊆ node'.childSubgroups) :
    u.Reached n g := by
  induction h with
  | root => exact hroot ▸ .root
  | child _ hg hc ih =>
    obtain ⟨node', hg', hsub⟩ := hgrow hg
    exact ih.child hg' (hsub hc)

lemma subset_insertAt {α κ : Type} [LinearOrder κ] {key : α → κ} {a l} :
    l ⊆ insertAt key a l := by
  unfold insertAt
  split
  · exact List.Subset.refl l
  · intro b hb
    exact (mem_orderedInsert _).mpr (.inr hb)

lemma self_mem_insertAt {κ : Type} [LinearOrder κ] {a : κ} {l} : a ∈ insertAt id a l := by
  unfold insertAt
  split
  · next h => simpa using h
  · exact (mem_orderedInsert _).mpr (.inl rfl)

lemma kept_of_addSubgroup {c : TaskGroupId}
    (hfresh : t.subgroup c = none) (hparent : t.subgroup p = some parent)
    (hdepth : parent.depth.val + 1 < 256 ^ 4) : Kept t (t.addSubgroup p c parent) := by
  refine ⟨rfl, rfl, rfl, fun hm => ?_⟩
  have hgrow {g : TaskGroupId} {node : SubgroupNode} (hg : t.subgroup g = some node) :
      ∃ node', (t.addSubgroup p c parent).subgroup g = some node' ∧
        node.childSubgroups ⊆ node'.childSubgroups := by
    have hcg : c ≠ g := by
      rintro rfl
      simp [hfresh] at hg
    refine ⟨_, (subgroup_addSubgroup hparent).trans ((if_neg hcg).trans (by rw [hg]; rfl)), ?_⟩
    change node.childSubgroups ⊆ if p = g then insertAt id c node.childSubgroups
      else node.childSubgroups
    split
    · exact subset_insertAt
    · exact List.Subset.refl _
  intro g node hg
  rw [subgroup_addSubgroup hparent] at hg
  split at hg
  · next hcg =>
    cases hg
    have hp : (t.addSubgroup p c parent).Reached parent.depth.val p :=
      (hm hparent).mono _ rfl hgrow
    have hval : (parent.depth.saturatingAdd 1).val = parent.depth.val + 1 :=
      Word.saturatingAdd_val hdepth
    rw [hval, ← hcg]
    have hpc : c ≠ p := by
      rintro rfl
      simp [hfresh] at hparent
    refine hp.child ((subgroup_addSubgroup hparent).trans
      ((if_neg hpc).trans (by rw [hparent]; rfl))) ?_
    simpa using self_mem_insertAt
  · obtain ⟨old, hold, rfl⟩ := Option.map_eq_some_iff.mp hg
    exact (hm hold).mono _ rfl hgrow

lemma subgroup_addSubgroup_of_ne
    (hparent : t.subgroup p = some parent) (hc : c ≠ g) (hp : p ≠ g) :
    (t.addSubgroup p c parent).subgroup g = t.subgroup g := by
  rw [subgroup_addSubgroup hparent, if_neg hc]
  simp [hp]

structure CanTake (t : HierarchicalFanoutTree) (d : ℕ) (pairs : List (TaskGroupId × TaskGroupId)) :
    Prop where
  parent : ∀ p ∈ pairs.map Prod.fst, ∃ node, t.subgroup p = some node ∧ node.depth.val = d ∧
    node.localFanout + pairs.countP (·.1 = p) ≤ t.maxBranchingFactor
  fresh : ∀ c ∈ pairs.map Prod.snd, t.subgroup c = none
  nodup : (pairs.map Prod.snd).Nodup

lemma CanTake.tail (h : CanTake t d ((p, c) :: rest))
    (hparent : t.subgroup p = some parent) : CanTake (t.addSubgroup p c parent) d rest := by
  obtain ⟨hparents, hfresh, hnodup⟩ := h
  simp only [map_cons, forall_mem_cons, nodup_cons] at hparents hfresh hnodup
  refine ⟨fun q hq => ?_, fun x hx => ?_, hnodup.2⟩
  · obtain ⟨node, hnode, hdepth, hfanout⟩ := hparents.2 q hq
    have hcq : c ≠ q := by
      rintro rfl
      simp [hfresh.1] at hnode
    rw [subgroup_addSubgroup hparent, if_neg hcq, hnode]
    refine ⟨_, rfl, hdepth, ?_⟩
    simp only [SubgroupNode.localFanout] at hfanout ⊢
    rw [countP_cons] at hfanout
    change _ ≤ t.maxBranchingFactor
    split
    · next hpq =>
      have hlength := length_insertAt_le id c node.childSubgroups
      simp only [hpq, decide_true, if_true] at hfanout
      omega
    · omega
  · have hcx : c ≠ x := by
      rintro rfl
      exact hnodup.1 hx
    have hpx : p ≠ x := by
      rintro rfl
      simp [hfresh.2 p hx] at hparent
    rw [subgroup_addSubgroup_of_ne hparent hcx hpx]
    exact hfresh.2 x hx

/-- One level of subgroups is attached whenever the depth bound admits it, and touches only its
parents. -/
lemma registerSubgroups_spec (h : CanTake t d pairs) (hd : d + 1 < 256 ^ 4) :
    (d + 1 ≤ t.maxDepth.val → ∃ t', t.registerSubgroups pairs = .ok t') ∧
    ∀ t', t.registerSubgroups pairs = .ok t' → Kept t t' ∧
      t'.leafToSubgroup = t.leafToSubgroup ∧ t'.OpenAt (d + 1) (pairs.map Prod.snd) ∧
      ∀ g, g ∉ pairs.map Prod.fst → g ∉ pairs.map Prod.snd → t'.subgroup g = t.subgroup g := by
  induction pairs generalizing t with
  | nil =>
    refine ⟨fun _ => ⟨t, rfl⟩, fun t' ht' => ?_⟩
    cases ht'
    exact ⟨.refl t, rfl, by simp [OpenAt], fun _ _ _ => rfl⟩
  | cons pair rest ih =>
    obtain ⟨p, c⟩ := pair
    obtain ⟨parent, hparent, hdepth, hfanout⟩ := h.parent p (by simp)
    have hfresh : t.subgroup c = none := h.fresh c (by simp)
    have hne : p ≠ c := by
      rintro rfl
      simp [hfresh] at hparent
    have hval : (parent.depth.saturatingAdd 1).val = d + 1 := by
      rw [← hdepth] at hd ⊢
      exact Word.saturatingAdd_val hd
    have hstep : t.registerSubgroups ((p, c) :: rest) =
        t.registerSubgroup p c >>= fun t => t.registerSubgroups rest := foldlM_cons
    obtain ⟨hprogress, heffect⟩ := ih (h.tail hparent)
    refine ⟨fun hle => ?_, fun t' ht' => ?_⟩
    · obtain ⟨t', ht'⟩ := hprogress hle
      refine ⟨t', ?_⟩
      have hfirst : t.registerSubgroup p c = .ok (t.addSubgroup p c parent) := by
        refine registerSubgroup_eq_ok.mpr ⟨hne, hfresh, parent, hparent, ?_, ?_, rfl⟩
        · rw [Fin.le_def, hval]
          exact hle
        · simp only [countP_cons, decide_true, if_true] at hfanout
          omega
      rw [hstep, hfirst]
      exact ht'
    · rw [hstep, bind_eq_ok] at ht'
      obtain ⟨first, hfirst, hrest⟩ := ht'
      obtain ⟨-, -, parent', hparent', -, -, rfl⟩ := registerSubgroup_eq_ok.mp hfirst
      cases hparent.symm.trans hparent'
      obtain ⟨hkept, hleaves, hopen, hframe⟩ := heffect t' hrest
      refine ⟨(kept_of_addSubgroup hfresh hparent (hdepth ▸ hd)).trans hkept, hleaves, ?_, ?_⟩
      · simp only [map_cons, OpenAt, forall_mem_cons]
        refine ⟨?_, hopen⟩
        have hcParents : c ∉ rest.map Prod.fst := by
          intro hc
          obtain ⟨node, hnode, -⟩ := h.parent c (mem_cons_of_mem _ hc)
          simp [hfresh] at hnode
        rw [hframe c hcParents (nodup_cons.mp h.nodup).1, subgroup_addSubgroup hparent, if_pos rfl]
        exact ⟨_, rfl, hval, rfl⟩
      · intro g hg hg'
        simp only [map_cons, mem_cons, not_or] at hg hg'
        rw [hframe g hg.2 hg'.2, subgroup_addSubgroup_of_ne hparent (Ne.symm hg'.1) (Ne.symm hg.1)]

/-! ## Registering the levels -/

section Levels

variable {root : TaskGroupId} {B n : ℕ} {name : ℕ → ℕ → TaskGroupId}

lemma mem_names (hB : 0 < B) (hlevel : B ^ (level + 1) < n)
    (h : g ∈ names name n B level) : ∃ i, Placed n B level i ∧ name level i = g := by
  obtain ⟨i, hi, rfl⟩ := mem_map.mp h
  exact ⟨i, ⟨hlevel, (lt_width_iff hB).mp (mem_range.mp hi)⟩, rfl⟩

lemma nodup_names (hB : 0 < B) (hname : NamedBy root B n name)
    (hlevel : B ^ (level + 1) < n) : (names name n B level).Nodup := by
  refine List.Nodup.map_on (fun i hi j hj hij => ?_) nodup_range
  have hplaced {i : ℕ} (hi : i ∈ range (width n B (level + 1))) : Placed n B level i :=
    ⟨hlevel, (lt_width_iff hB).mp (mem_range.mp hi)⟩
  exact (hname.distinct (hplaced hi) (hplaced hj) hij).2

lemma parents_of_level {α : Type} (hB : 0 < B) (hname : NamedBy root B n name)
    (hlevel : B ^ (level + 1) < n) {items : List α} (hitems : items.length = width n B level)
    (hp : p ∈ (items.mapIdx fun j item => (name level (j / B), item)).map Prod.fst) :
    p ∈ names name n B level ∧
      (items.mapIdx fun j item => (name level (j / B), item)).countP (·.1 = p) ≤ B := by
  have hfst : (items.mapIdx fun j item => (name level (j / B), item)).map Prod.fst =
      (range items.length).map fun j => name level (j / B) :=
    ext_getElem (by simp) (by simp)
  have hquotient {j : ℕ} (hj : j < items.length) : j / B < width n B (level + 1) := by
    rw [width, lt_ceil_iff hB, ← hitems]
    exact (Nat.div_mul_le_self j B).trans_lt hj
  have hplaced {j : ℕ} (hj : j < items.length) : Placed n B level (j / B) :=
    ⟨hlevel, (lt_width_iff hB).mp (hquotient hj)⟩
  rw [hfst, mem_map] at hp
  obtain ⟨i, hi, rfl⟩ := hp
  rw [mem_range] at hi
  refine ⟨mem_map.mpr ⟨i / B, mem_range.mpr (hquotient hi), rfl⟩, ?_⟩
  have hcount : (items.mapIdx fun j item => (name level (j / B), item)).countP
      (·.1 = name level (i / B)) =
      (range items.length).countP fun j => name level (j / B) = name level (i / B) := by
    have hmap := congrArg (countP fun g => decide (g = name level (i / B))) hfst
    rw [countP_map, countP_map] at hmap
    exact hmap
  rw [hcount]
  refine le_trans (countP_mono_left fun j hj hsame => ?_)
    (countP_div_le hB items.length (i / B))
  have hj' : j < items.length := mem_range.mp hj
  simpa using (hname.distinct (hplaced hj') (hplaced hi) (by simpa using hsame)).2

lemma saturated_succ (level : ℕ) :
    (saturated 4 level).saturatingAdd 1 = saturated 4 (level + 1) := by
  have hone : (1 : Word 4).val = 1 := rfl
  refine Fin.ext ?_
  simp only [saturated, Word.saturatingAdd, hone]
  omega

/-- Registering the levels below the open subgroups `top` opens the subgroups `bottom`, each level
one step deeper; `fresh` are the subgroups that are registered on the way. -/
structure OpensBelow (B : ℕ) (levels : List (List (TaskGroupId × List TaskGroupId)))
    (top fresh bottom : List TaskGroupId) : Prop where
  bottom_mem : ∀ g ∈ bottom, g ∈ fresh ∨ g ∈ top
  progress {t : HierarchicalFanoutTree} {d : ℕ} : t.OpenAt d top →
    (∀ g ∈ fresh, t.subgroup g = none) → t.maxBranchingFactor = B → d + levels.length < 256 ^ 4 →
    d + levels.length ≤ t.maxDepth.val → ∃ t', t.registerLevels levels = .ok t'
  effect {t t' : HierarchicalFanoutTree} {d : ℕ} : t.OpenAt d top →
    (∀ g ∈ fresh, t.subgroup g = none) → t.maxBranchingFactor = B →
    d + levels.length < 256 ^ 4 → t.registerLevels levels = .ok t' →
    Kept t t' ∧ t'.leafToSubgroup = t.leafToSubgroup ∧ t'.OpenAt (d + levels.length) bottom ∧
      ∀ g, g ∉ fresh → g ∉ top → t'.subgroup g = t.subgroup g

lemma opensBelow_nil (B : ℕ) (top : List TaskGroupId) : OpensBelow B [] top [] top where
  bottom_mem := fun _ hg => .inr hg
  progress := fun {t _} _ _ _ _ _ => ⟨t, rfl⟩
  effect := by
    intro t t' d hopen _ _ _ h
    cases h
    exact ⟨.refl t, rfl, hopen, fun _ _ _ => rfl⟩

lemma OpensBelow.cons {levels top fresh bottom ids} (h : OpensBelow B levels top fresh bottom)
    {next} (hparents : ∀ p ∈ (groupPairs next).map Prod.fst,
      p ∈ bottom ∧ (groupPairs next).countP (·.1 = p) ≤ B)
    (hids : (groupPairs next).map Prod.snd = ids) (hnodup : ids.Nodup)
    (hdisjoint : ∀ g ∈ ids, g ∉ fresh ∧ g ∉ top) :
    OpensBelow B (next :: levels) top (ids ++ fresh) ids := by
  have hsplit (t : HierarchicalFanoutTree) : t.registerLevels (next :: levels) =
      t.registerLevels levels >>= fun t => t.registerSubgroups (groupPairs next) := by
    simp [registerLevels]
  -- After the levels above, the parents are open and the new subgroups are not there yet.
  have htake {t u : HierarchicalFanoutTree} {d : ℕ}
      (hfresh : ∀ g ∈ ids ++ fresh, t.subgroup g = none)
      (hB : t.maxBranchingFactor = B) (hkept : Kept t u)
      (hopen : u.OpenAt (d + levels.length) bottom)
      (hframe : ∀ g, g ∉ fresh → g ∉ top → u.subgroup g = t.subgroup g) :
      CanTake u (d + levels.length) (groupPairs next) := by
    refine ⟨fun p hp => ?_, fun c hc => ?_, hids ▸ hnodup⟩
    · obtain ⟨hbottom, hcount⟩ := hparents p hp
      obtain ⟨node, hnode, hdepth, hfanout⟩ := hopen p hbottom
      refine ⟨node, hnode, hdepth, ?_⟩
      rw [hfanout, hkept.maxBranchingFactor, hB, Nat.zero_add]
      exact hcount
    · rw [hids] at hc
      rw [hframe c (hdisjoint c hc).1 (hdisjoint c hc).2]
      exact hfresh c (mem_append_left _ hc)
  refine ⟨fun g hg => .inl (mem_append_left _ hg), ?_, ?_⟩
  · intro t d hopen hfresh hB hd hle
    rw [length_cons, ← Nat.add_assoc] at hd hle
    have hfresh' : ∀ g ∈ fresh, t.subgroup g = none := fun g hg =>
      hfresh g (mem_append_right _ hg)
    obtain ⟨u, hu⟩ := h.progress hopen hfresh' hB (by omega) (by omega)
    obtain ⟨hkept, -, hopen', hframe⟩ := h.effect hopen hfresh' hB (by omega) hu
    have hspec := registerSubgroups_spec (htake hfresh hB hkept hopen' hframe) hd
    obtain ⟨t', ht'⟩ := hspec.1 (hkept.maxDepth ▸ hle)
    exact ⟨t', by rw [hsplit, hu]; exact ht'⟩
  · intro t t' d hopen hfresh hB hd hlevels
    rw [length_cons, ← Nat.add_assoc] at hd ⊢
    rw [hsplit, bind_eq_ok] at hlevels
    obtain ⟨u, hu, ht'⟩ := hlevels
    have hfresh' : ∀ g ∈ fresh, t.subgroup g = none := fun g hg =>
      hfresh g (mem_append_right _ hg)
    obtain ⟨hkept, hleaves, hopen', hframe⟩ := h.effect hopen hfresh' hB (by omega) hu
    have hspec := registerSubgroups_spec (htake hfresh hB hkept hopen' hframe) hd
    obtain ⟨hkept', hleaves', hnext, hframe'⟩ := hspec.2 t' ht'
    rw [hids] at hnext
    refine ⟨hkept.trans hkept', hleaves'.trans hleaves, hnext, fun g hg htop => ?_⟩
    simp only [mem_append, not_or] at hg
    have hparent : g ∉ (groupPairs next).map Prod.fst := by
      intro hp
      rcases h.bottom_mem g (hparents g hp).1 with hmem | hmem
      · exact hg.2 hmem
      · exact htop hmem
    rw [hframe' g hparent (hids ▸ hg.1), hframe g hg.2 htop]

/-- The subgroups of the levels from `level` up, without the last. -/
def namesFrom (name : ℕ → ℕ → TaskGroupId) (n B level count : ℕ) : List TaskGroupId :=
  (List.range count).flatMap fun i => names name n B (level + i)

lemma namesFrom_succ (level count : ℕ) : namesFrom name n B level (count + 1) =
    names name n B level ++ namesFrom name n B (level + 1) count := by
  simp only [namesFrom, range_succ_eq_map, flatMap_cons, flatMap_map, Nat.add_zero]
  congr 2
  funext i
  rw [Nat.succ_eq_add_one, Nat.add_assoc, Nat.add_comm 1]

lemma not_mem_names (hB : 0 < B) (hname : NamedBy root B n name)
    (hlevel : B ^ (level + 1) < n) (hlevel' : B ^ (level' + 1) < n) (hne : level ≠ level')
    (hg : g ∈ names name n B level) : g ∉ names name n B level' := by
  intro hg'
  obtain ⟨i, hplaced, rfl⟩ := mem_names hB hlevel hg
  obtain ⟨i', hplaced', heq⟩ := mem_names hB hlevel' hg'
  exact hne (hname.distinct hplaced hplaced' heq.symm).1

/-- The levels are built from the leaves upwards until one fits under the root. -/
lemma intermediateLevels_spec (hB : 2 ≤ B) (hname : NamedBy root B n name) {fuel}
    (hlevel : B ^ (level + 1) < n) (hfuel : width n B (level + 1) ≤ fuel + 1) :
    ∃ levels, intermediateLevels root B fuel (saturated 4 (level + 1)) (names name n B level) =
        some (levels, names name n B (level + levels.length)) ∧
      width n B (level + levels.length + 1) ≤ B ∧ B ^ (level + levels.length + 1) < n ∧
      OpensBelow B levels (names name n B (level + levels.length))
        (namesFrom name n B level levels.length) (names name n B level) := by
  have hB' : 0 < B := by omega
  have hlength : (names name n B level).length = width n B (level + 1) := by simp [names]
  induction fuel generalizing level with
  | zero =>
    refine ⟨[], rfl, ?_, hlevel, opensBelow_nil B _⟩
    exact hfuel.trans (by omega)
  | succ fuel ih =>
    rw [intermediateLevels, hlength]
    split
    · next hlong =>
      have hnext : B ^ (level + 1 + 1) < n := by
        rw [Nat.pow_succ']
        exact (lt_width_iff hB').mp hlong
      have hfuel' : width n B (level + 1 + 1) ≤ fuel + 1 := by
        by_contra hlt
        have := (lt_ceil_iff hB').mp (not_le.mp hlt)
        nlinarith
      obtain ⟨groups, hgroups, hfst, hpairs⟩ :=
        levelGroups_eq hB' hname hnext hlength
      obtain ⟨levels, hlevels, hwidth, htop, hopens⟩ := ih hnext hfuel' (by simp [names])
      have hindex : level + (levels.length + 1) = level + 1 + levels.length := by omega
      refine ⟨groups :: levels, ?_, ?_, ?_, ?_⟩
      · simp [hgroups, hfst, saturated_succ, hlevels, hindex]
      · rw [length_cons, hindex]
        exact hwidth
      · rw [length_cons, hindex]
        exact htop
      · rw [length_cons, hindex, namesFrom_succ]
        refine hopens.cons (fun p hp => ?_) ?_ (nodup_names hB' hname hlevel) fun g hg => ?_
        · rw [hpairs] at hp ⊢
          exact parents_of_level hB' hname hnext hlength hp
        · rw [hpairs]
          exact ext_getElem (by simp) (by simp)
        · have habove (i : ℕ) (hi : i ≤ levels.length) : B ^ (level + 1 + i + 1) < n :=
            (Nat.pow_le_pow_right hB' (by omega)).trans_lt htop
          refine ⟨fun hmem => ?_, not_mem_names hB' hname hlevel htop (by omega) hg⟩
          obtain ⟨i, hi, hmem⟩ := mem_flatMap.mp hmem
          exact not_mem_names hB' hname hlevel (habove i (mem_range.mp hi).le) (by omega)
            hg hmem
    · next hshort => exact ⟨[], rfl, not_lt.mp hshort, hlevel, opensBelow_nil B _⟩

end Levels

end HierarchicalFanoutTree

end Nlos.Fanout
