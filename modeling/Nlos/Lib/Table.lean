import Mathlib

/-!
# Finite tables

An ordered map whose comparison decides equality is a finite table: it is determined by its
lookups, an update is seen at its own key only, and a sum over the stored values changes by
the difference of the new and the replaced value.
-/

namespace Nlos.Lib

open Std List

abbrev Table (α β : Type) [Ord α] := ExtTreeMap α β

/-- Pairs are ordered by the first component, then by the second. -/
abbrev PairTable (α β γ : Type) [Ord α] [Ord β] := ExtTreeMap (α × β) γ (@compare _ lexOrd)

instance subtypeLawfulEqOrd {α : Type} [Ord α] [LawfulEqOrd α] {p : α → Prop} :
    LawfulEqOrd { a : α // p a } where
  compare_self := ReflOrd.compare_self (α := α)
  eq_of_compare h := Subtype.ext (LawfulEqOrd.eq_of_compare h)

namespace Table

variable {α β : Type} {cmp : α → α → Ordering} [TransCmp cmp] [LawfulEqCmp cmp] {v : β}

lemma getElem?_insert_eq [DecidableEq α] (t : ExtTreeMap α β cmp) (k a : α) (v : β) :
    (t.insert k v)[a]? = if k = a then some v else t[a]? := by
  simp only [ExtTreeMap.getElem?_insert, LawfulEqCmp.compare_eq_iff_eq]

variable {t : ExtTreeMap α β cmp}

lemma getElem?_insert_ne (h : k ≠ a) : (t.insert k v)[a]? = t[a]? := by
  classical
  rw [getElem?_insert_eq, if_neg h]

/-- A table without some of its keys. -/
lemma getElem?_foldl_erase (l : List (α × β)) (t : ExtTreeMap α β cmp) (a : α) :
    (l.foldl (fun t e => t.erase e.1) t)[a]? = some v ↔ t[a]? = some v ∧ ∀ e ∈ l, e.1 ≠ a := by
  induction l generalizing t with
  | nil => simp
  | cons e l ih =>
    rw [foldl_cons, ih, ExtTreeMap.getElem?_erase]
    simp only [LawfulEqCmp.compare_eq_iff_eq, forall_mem_cons]
    by_cases h : e.1 = a <;> simp [h]

lemma nodup_toList (t : ExtTreeMap α β cmp) : t.toList.Nodup := by
  refine List.Pairwise.imp ?_ t.ordered_keys_toList
  rintro a b hlt rfl
  simp [ReflCmp.compare_self] at hlt

lemma nodup_keys (t : ExtTreeMap α β cmp) : t.keys.Nodup := by
  refine List.Pairwise.imp ?_ t.ordered_keys
  rintro a b hlt rfl
  simp [ReflCmp.compare_self] at hlt

/-- The entries of an updated table: the new one and those at other keys. -/
lemma toList_insert_perm [DecidableEq α] (t : ExtTreeMap α β cmp) (k : α) (v : β) :
    (t.insert k v).toList.Perm ((k, v) :: t.toList.filter (fun e => e.1 ≠ k)) := by
  rw [perm_ext_iff_of_nodup (nodup_toList _)]
  · rintro ⟨a, w⟩
    simp only [ExtTreeMap.mem_toList_iff_getElem?_eq_some, getElem?_insert_eq, mem_cons,
      mem_filter, Prod.mk.injEq, decide_eq_true_eq]
    by_cases h : k = a <;> simp [h, eq_comm]
  · refine nodup_cons.mpr ⟨by simp, (nodup_toList t).filter _⟩

/-- The sum of a measure over the stored values. -/
def sum (f : β → ℕ) (t : ExtTreeMap α β cmp) : ℕ := (t.toList.map fun e => f e.2).sum

omit [LawfulEqCmp cmp] in
@[simp] lemma sum_empty (f : β → ℕ) : sum f (∅ : ExtTreeMap α β cmp) = 0 := by
  have hnil : (∅ : ExtTreeMap α β cmp).toList = [] := by
    rw [ExtTreeMap.toList_eq_nil_iff]
  simp [sum, hnil]

/-- An update changes a sum by the new value minus the replaced one. -/
lemma sum_insert (f : β → ℕ) (t : ExtTreeMap α β cmp) (k : α) (v : β) :
    sum f (t.insert k v) + t[k]?.elim 0 f = sum f t + f v := by
  classical
  have hnew : sum f (t.insert k v) =
      f v + ((t.toList.filter fun e => e.1 ≠ k).map fun e => f e.2).sum := by
    rw [sum, ((toList_insert_perm t k v).map _).sum_eq]
    simp
  have hold : sum f t =
      t[k]?.elim 0 f + ((t.toList.filter fun e => e.1 ≠ k).map fun e => f e.2).sum := by
    cases hk : t[k]? with
    | none =>
      have hall : t.toList.filter (fun e => e.1 ≠ k) = t.toList := by
        refine filter_eq_self.mpr ?_
        rintro ⟨a, w⟩ hmem
        rw [ExtTreeMap.mem_toList_iff_getElem?_eq_some] at hmem
        have hne : a ≠ k := by
          rintro rfl
          simp [hk] at hmem
        simpa using hne
      rw [hall]
      simp [sum]
    | some w =>
      have hself : t.insert k w = t := by
        refine ExtTreeMap.ext_getElem? fun a => ?_
        rw [getElem?_insert_eq]
        split
        · next h => rw [← h, hk]
        · rfl
      have hperm := toList_insert_perm t k w
      rw [hself] at hperm
      rw [sum, (hperm.map _).sum_eq]
      simp
  omega

lemma sum_insert_of_none (f : β → ℕ) (v : β)
    (h : t[k]? = none) : sum f (t.insert k v) = sum f t + f v := by
  simpa [h] using sum_insert f t k v

lemma sum_insert_of_some (f : β → ℕ) (v : β)
    (h : t[k]? = some w) : sum f (t.insert k v) + f w = sum f t + f v := by
  simpa [h] using sum_insert f t k v

lemma sum_erase (f : β → ℕ) (h : t[k]? = some v) : sum f (t.erase k) + f v = sum f t := by
  have hnone : (t.erase k)[k]? = none := by rw [ExtTreeMap.getElem?_erase]; simp
  have hback : (t.erase k).insert k v = t := by
    refine ExtTreeMap.ext_getElem? fun a => ?_
    rw [ExtTreeMap.getElem?_insert, ExtTreeMap.getElem?_erase]
    split
    · next heq => rw [← h, LawfulEqCmp.compare_eq_iff_eq.mp heq]
    · rfl
  rw [← sum_insert_of_none f v hnone, hback]

lemma le_sum (f : β → ℕ) {k : α} (h : t[k]? = some v) : f v ≤ sum f t := by
  have hmem : (k, v) ∈ t.toList := ExtTreeMap.mem_toList_iff_getElem?_eq_some.mpr h
  exact single_le_sum (by simp) _ (mem_map.mpr ⟨(k, v), hmem, rfl⟩)

section Rows

variable {ρ : Type}

/-- The table that results from inserting rows one by one; a later row replaces an earlier one
with the same key. -/
def ofRows (entry : ρ → α × β) (rows : List ρ) : ExtTreeMap α β cmp :=
  rows.foldl (fun t row => t.insert (entry row).1 (entry row).2) ∅

def Ascending (cmp : α → α → Ordering) (entries : List (α × β)) : Prop :=
  entries.Pairwise fun e e' => cmp e.1 e'.1 = .lt

omit [LawfulEqCmp cmp] in
lemma ascending_toList (t : ExtTreeMap α β cmp) : Ascending cmp t.toList :=
  t.ordered_keys_toList

omit [LawfulEqCmp cmp] in
lemma Ascending.eq_of_perm {l l' : List (α × β)} (hl : Ascending cmp l) (hl' : Ascending cmp l')
    (h : l.Perm l') : l = l' := by
  refine h.eq_of_pairwise (fun a b _ _ hab hba => ?_) hl hl'
  exact absurd hba (OrientedCmp.not_lt_of_lt hab)

variable {t : ExtTreeMap α β cmp}

/-- A new largest key goes to the end. -/
lemma toList_insert_of_forall_lt
    (h : ∀ e ∈ t.toList, cmp e.1 k = .lt) : (t.insert k v).toList = t.toList ++ [(k, v)] := by
  classical
  refine (ascending_toList _).eq_of_perm ?_ ?_
  · refine pairwise_append.mpr ⟨ascending_toList t, pairwise_singleton _ _, ?_⟩
    rintro e he e' he'
    rw [mem_singleton] at he'
    exact he' ▸ h e he
  · have hkeep : t.toList.filter (fun e => e.1 ≠ k) = t.toList := by
      refine filter_eq_self.mpr fun e he => ?_
      have hlt := h e he
      have hne : e.1 ≠ k := by
        rintro rfl
        simp [ReflCmp.compare_self] at hlt
      simpa using hne
    have hperm := toList_insert_perm t k v
    rw [hkeep] at hperm
    exact hperm.trans (perm_append_singleton _ _).symm

omit [LawfulEqCmp cmp] in
lemma ofRows_snoc (entry : ρ → α × β) (rows : List ρ) (row : ρ) :
    (ofRows entry (rows ++ [row]) : ExtTreeMap α β cmp) =
      (ofRows entry rows).insert (entry row).1 (entry row).2 := by
  simp [ofRows]

variable {entry : ρ → α × β}

lemma toList_ofRows (h : Ascending cmp (rows.map entry)) :
    (ofRows entry rows : ExtTreeMap α β cmp).toList = rows.map entry := by
  induction rows using List.reverseRecOn with
  | nil => simp [ofRows]
  | append_singleton rows row ih =>
    rw [map_append] at h
    obtain ⟨hinit, -, hlast⟩ := pairwise_append.mp h
    have hlt : ∀ e ∈ (ofRows entry rows : ExtTreeMap α β cmp).toList,
        cmp e.1 (entry row).1 = .lt := by
      rw [ih hinit]
      intro e he
      exact hlast e he _ (mem_singleton_self _)
    rw [ofRows_snoc, toList_insert_of_forall_lt hlt, ih hinit]
    simp

/-- Inserting the entries of a table gives the table back. -/
lemma ofRows_eq (h : rows.map entry = t.toList) : ofRows entry rows = t := by
  have hasc : Ascending cmp (rows.map entry) := h ▸ ascending_toList t
  have hlist := toList_ofRows hasc
  rw [h] at hlist
  exact ExtTreeMap.ext_toList (hlist ▸ List.Perm.refl _)

def values (t : ExtTreeMap α β cmp) : List β := t.toList.map Prod.snd

/-- Every value is stored under its own key. -/
def KeyedBy (key : β → α) (t : ExtTreeMap α β cmp) : Prop :=
  ∀ k v, t[k]? = some v → key v = k

omit [LawfulEqCmp cmp] in
lemma keyedBy_empty (key : β → α) : KeyedBy key (∅ : ExtTreeMap α β cmp) := by
  intro k v h
  simp at h

variable {key : β → α}

lemma KeyedBy.insert (h : KeyedBy key t) (hv : key v = k) : KeyedBy key (t.insert k v) := by
  classical
  intro k' w hw
  rw [getElem?_insert_eq] at hw
  split at hw
  · next hk =>
    cases hw
    exact hv.trans hk
  · exact h k' w hw

lemma KeyedBy.map_values (h : KeyedBy key t) :
    (values t).map (fun v => (key v, v)) = t.toList := by
  rw [values, map_map]
  conv_rhs => rw [← map_id t.toList]
  refine map_congr_left fun e he => ?_
  have hkey := h e.1 e.2 (ExtTreeMap.mem_toList_iff_getElem?_eq_some.mp he)
  simp [hkey]

lemma mem_of_ofRows (h : (ofRows entry rows : ExtTreeMap α β cmp)[k]? = some v) :
    ∃ row ∈ rows, entry row = (k, v) := by
  classical
  induction rows using List.reverseRecOn with
  | nil => simp [ofRows] at h
  | append_singleton rows row ih =>
    rw [ofRows_snoc, getElem?_insert_eq] at h
    split at h
    · next hk =>
      exact ⟨row, by simp, Prod.ext hk (Option.some.inj h)⟩
    · obtain ⟨row', hmem, hrow'⟩ := ih h
      exact ⟨row', mem_append_left _ hmem, hrow'⟩

lemma keyedBy_ofRows (key : β → α) (rows : List β) :
    KeyedBy key (ofRows (fun v => (key v, v)) rows : ExtTreeMap α β cmp) := by
  intro k v h
  obtain ⟨row, -, hrow⟩ := mem_of_ofRows h
  cases hrow
  rfl

lemma ofRows_values (h : KeyedBy key t) : ofRows (fun v => (key v, v)) (values t) = t :=
  ofRows_eq h.map_values

lemma ofRows_toList (t : ExtTreeMap α β cmp) : ofRows id t.toList = t :=
  ofRows_eq (map_id _)

lemma values_ofRows (h : Ascending cmp (rows.map fun v => (key v, v))) :
    values (ofRows (fun v => (key v, v)) rows : ExtTreeMap α β cmp) = rows := by
  rw [values, toList_ofRows h, map_map]
  exact map_id _

end Rows

/-- Applies a change to each listed key that is stored, one after the other. -/
def modifyAll (f : β → β) (t : ExtTreeMap α β cmp) : List α → ExtTreeMap α β cmp
  | [] => t
  | k :: ks =>
    match t[k]? with
    | some v => modifyAll f (t.insert k (f v)) ks
    | none => modifyAll f t ks

/-- The keys that the stored values satisfying a condition carry, in order. -/
def keysWhere (key : β → α) (p : β → Bool) (t : ExtTreeMap α β cmp) : List α :=
  ((values t).filter p).map key

lemma mem_keysWhere
    (hkeyed : KeyedBy key t) (h : a ∈ keysWhere key p t) : ∃ v, t[a]? = some v ∧ p v = true := by
  simp only [keysWhere, values, mem_map, mem_filter] at h
  obtain ⟨v, ⟨⟨⟨k, w⟩, hmem, rfl⟩, hp⟩, rfl⟩ := h
  have hw := ExtTreeMap.mem_toList_iff_getElem?_eq_some.mp hmem
  exact ⟨w, by rw [hkeyed k w hw]; exact hw, hp⟩

lemma nodup_keysWhere (hkeyed : KeyedBy key t) : (keysWhere key p t).Nodup := by
  have hkeys : (values t).map key = t.keys := by
    rw [← ExtTreeMap.map_fst_toList_eq_keys, ← hkeyed.map_values, map_map]
    rfl
  have hsub : (keysWhere key p t).Sublist t.keys := by
    rw [← hkeys]
    exact filter_sublist.map _
  exact (nodup_keys t).sublist hsub

end Table

end Nlos.Lib
