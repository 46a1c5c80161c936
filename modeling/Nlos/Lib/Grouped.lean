import Mathlib

/-!
# Ordered collections built from lists

What an ordered set or an ordered map holds after the items of a list have been put into it one by
one, read back in the order of the keys: the distinct keys, the items collected under each key, and
the first or the last item under each key.
-/

namespace Nlos.Lib

open List

variable {α β κ : Type} [LinearOrder κ]

lemma eq_of_pairwise_key_lt {key : α → κ} {l l' : List α}
    (hl : l.Pairwise fun a b => key a < key b) (hl' : l'.Pairwise fun a b => key a < key b)
    (h : ∀ a, a ∈ l ↔ a ∈ l') : l = l' := by
  have hne {a b : α} (hlt : key a < key b) : a ≠ b := fun hab => hlt.ne (congrArg key hab)
  have hperm : l.Perm l' :=
    (perm_ext_iff_of_nodup (hl.imp hne) (hl'.imp hne)).mpr h
  exact hperm.eq_of_pairwise (fun a b _ _ hab hba => absurd hba hab.asymm) hl hl'

lemma find?_reverse_eq_some {key : α → κ} {l : List α}
    (hl : l.Pairwise fun a b => key a < key b) :
    (l.reverse.find? fun b => key b = k) = some a ↔ a ∈ l ∧ key a = k := by
  constructor
  · intro h
    exact ⟨mem_reverse.mp (mem_of_find?_eq_some h), by simpa using find?_some h⟩
  · rintro ⟨ha, hk⟩
    have hsome : (l.reverse.find? fun b => key b = k).isSome := by
      rw [find?_isSome]
      exact ⟨a, mem_reverse.mpr ha, by simpa using hk⟩
    obtain ⟨b, hb⟩ := Option.isSome_iff_exists.mp hsome
    have hbl : b ∈ l := mem_reverse.mp (mem_of_find?_eq_some hb)
    have hkb : key b = k := by simpa using find?_some hb
    have hnodup : (l.map key).Nodup := pairwise_map.mpr (hl.imp fun hlt => hlt.ne)
    rw [hb, Option.some.injEq]
    exact inj_on_of_nodup_map hnodup hbl ha (hkb.trans hk.symm)

def ascending (l : List κ) : List κ := l.dedup.insertionSort (· ≤ ·)

@[simp] lemma mem_ascending {l : List κ} : k ∈ ascending l ↔ k ∈ l := by
  rw [ascending, mem_insertionSort, mem_dedup]

lemma pairwise_ascending (l : List κ) : (ascending l).Pairwise (· < ·) := by
  have hsorted : (ascending l).Pairwise (· ≤ ·) := pairwise_insertionSort (· ≤ ·) l.dedup
  have hnodup : (ascending l).Nodup :=
    (perm_insertionSort (· ≤ ·) l.dedup).nodup_iff.mpr l.nodup_dedup
  exact (hsorted.and hnodup).imp fun ⟨hle, hne⟩ => lt_of_le_of_ne hle hne

lemma ascending_congr {l l' : List κ} (h : ∀ k, k ∈ l ↔ k ∈ l') :
    ascending l = ascending l' := by
  refine @eq_of_pairwise_key_lt _ _ _ id _ _ (pairwise_ascending l) (pairwise_ascending l')
    fun k => ?_
  rw [mem_ascending, mem_ascending, h]

lemma length_ascending (l : List κ) : (ascending l).length = l.toFinset.card := by
  rw [ascending, (perm_insertionSort _ _).length_eq, card_toFinset]

/-- A list has two distinct members exactly when more than one of them is left in order. -/
lemma one_lt_length_ascending {l : List κ} :
    1 < (ascending l).length ↔ ∃ a ∈ l, ∃ b ∈ l, a ≠ b := by
  rw [length_ascending, Finset.one_lt_card]
  simp only [mem_toFinset]

omit [LinearOrder κ] in
/-- Some member differs from the first one exactly when two members differ. -/
lemma exists_ne_head {f : α → κ} :
    (∃ x ∈ a :: rest, f x ≠ f a) ↔ ∃ x ∈ a :: rest, ∃ y ∈ a :: rest, f x ≠ f y := by
  constructor
  · rintro ⟨x, hx, hne⟩
    exact ⟨x, hx, a, mem_cons_self, hne⟩
  · rintro ⟨x, hx, y, hy, hne⟩
    by_cases hxa : f x = f a
    · exact ⟨y, hy, fun hya => hne (hxa.trans hya.symm)⟩
    · exact ⟨x, hx, hxa⟩

/-- The items in ascending order of their keys; items with one key keep their order. -/
def sortByKey (key : α → κ) (items : List α) : List α :=
  items.insertionSort fun a b => key a ≤ key b

@[simp] lemma mem_sortByKey {key : α → κ} :
    a ∈ sortByKey key items ↔ a ∈ items :=
  mem_insertionSort _

variable {key : α → κ} {items items' : List α}

def groups (key : α → κ) (items : List α) : List (κ × List α) :=
  (ascending (items.map key)).map fun k => (k, items.filter fun a => key a = k)

lemma mem_groups {k : κ} : (k, group) ∈ groups key items ↔
      (∃ a ∈ items, key a = k) ∧ group = items.filter fun a => key a = k := by
  simp only [groups, mem_map, mem_ascending, Prod.mk.injEq]
  constructor
  · rintro ⟨k', hk', rfl, rfl⟩
    exact ⟨hk', rfl⟩
  · rintro ⟨hk, rfl⟩
    exact ⟨k, hk, rfl, rfl⟩

lemma pairwise_groups (key : α → κ) (items : List α) :
    (groups key items).Pairwise fun g g' => g.1 < g'.1 :=
  pairwise_map.mpr (pairwise_ascending _)

def earliest (key : α → κ) (items : List α) : List α :=
  (ascending (items.map key)).filterMap fun k => items.find? fun a => key a = k

def latest (key : α → κ) (items : List α) : List α :=
  (ascending (items.map key)).filterMap fun k => items.reverse.find? fun a => key a = k

lemma mem_latest (h : a ∈ latest key items) : a ∈ items := by
  obtain ⟨k, -, hfind⟩ := mem_filterMap.mp h
  exact mem_reverse.mp (mem_of_find?_eq_some hfind)

lemma exists_mem_latest {a : α} (h : a ∈ items) : ∃ b ∈ latest key items, key b = key a := by
  have hsome : (items.reverse.find? fun b => key b = key a).isSome := by
    rw [find?_isSome]
    exact ⟨a, mem_reverse.mpr h, by simp⟩
  obtain ⟨b, hb⟩ := Option.isSome_iff_exists.mp hsome
  refine ⟨b, mem_filterMap.mpr ⟨key a, ?_, hb⟩, by simpa using find?_some hb⟩
  exact mem_ascending.mpr (mem_map_of_mem h)

lemma pairwise_latest (key : α → κ) (items : List α) :
    (latest key items).Pairwise fun a b => key a < key b := by
  refine List.Pairwise.filterMap _ (fun k k' hlt a ha b hb => ?_) (pairwise_ascending _)
  have hka : key a = k := by simpa using find?_some ha
  have hkb : key b = k' := by simpa using find?_some hb
  rw [hka, hkb]
  exact hlt

lemma mem_map_latest {f : α → β}
    (hagree : ∀ a ∈ items, ∀ b ∈ items, key a = key b → f a = f b) :
    r ∈ (latest key items).map f ↔ ∃ a ∈ items, f a = r := by
  rw [mem_map]
  constructor
  · rintro ⟨a, ha, hr⟩
    exact ⟨a, mem_latest ha, hr⟩
  · rintro ⟨a, ha, rfl⟩
    obtain ⟨b, hb, hkey⟩ : ∃ b ∈ latest key items, key b = key a := exists_mem_latest ha
    exact ⟨b, hb, hagree b (mem_latest hb) a ha hkey⟩

lemma map_latest_congr {f : α → β} (key' : β → κ) (hkey : ∀ a, key' (f a) = key a)
    (hagree : ∀ a ∈ items, ∀ b ∈ items, key a = key b → f a = f b)
    (hagree' : ∀ a ∈ items', ∀ b ∈ items', key a = key b → f a = f b)
    (hsame : ∀ r, (∃ a ∈ items, f a = r) ↔ ∃ a ∈ items', f a = r) :
    (latest key items).map f = (latest key items').map f := by
  have hpairwise (l : List α) :
      ((latest key l).map f).Pairwise fun r r' => key' r < key' r' := by
    rw [pairwise_map]
    simpa only [hkey] using pairwise_latest key l
  refine eq_of_pairwise_key_lt (hpairwise items) (hpairwise items') fun r => ?_
  rw [mem_map_latest hagree, mem_map_latest hagree', hsame]

end Nlos.Lib
