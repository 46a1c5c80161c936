import Nlos.Lib.Rows

/-!
# Rows under a key

In a table whose rows have distinct keys, a search by key finds the row with the key, and an update
that selects rows by their key replaces one row.
-/

namespace Nlos.Lib

open List

variable {α κ : Type} [DecidableEq κ] {key : α → κ} {rows : List α} {r r' : α}

def replaceRow (key : α → κ) (row : α) (rows : List α) : List α :=
  updateRows (fun q => key q = key row) (fun _ => row) rows

lemma map_replaceRow (key : α → κ) (row : α) (rows : List α) :
    (replaceRow key row rows).map key = rows.map key := by
  unfold replaceRow updateRows
  rw [map_map]
  refine map_congr_left fun q _ => ?_
  by_cases hq : key q = key row
  · simp [hq]
  · simp [hq]

lemma mem_replaceRow_self (hr : r ∈ rows) (hkey : key r' = key r) : r' ∈ replaceRow key r' rows :=
  mem_updateRows.mpr (.inr ⟨r, hr, hkey.symm, rfl⟩)

lemma eq_or_of_mem_replaceRow (hq : q ∈ replaceRow key r' rows) :
    q = r' ∨ (q ∈ rows ∧ key q ≠ key r') := by
  rcases mem_updateRows.mp hq with hold | ⟨_, -, -, rfl⟩
  · exact .inr hold
  · exact .inl rfl

lemma mem_replaceRow_of_ne (hq : q ∈ rows) (hne : key q ≠ key r') :
    q ∈ replaceRow key r' rows :=
  mem_updateRows.mpr (.inl ⟨hq, hne⟩)

lemma replaceRow_replaceRow (hkey : key row' = key row) :
    replaceRow key row' (replaceRow key row rows) = replaceRow key row' rows := by
  unfold replaceRow updateRows
  rw [map_map]
  refine map_congr_left fun q _ => ?_
  by_cases hq : key q = key row
  · simp [hq, hkey]
  · simp [hq, hkey]

namespace Keyed

lemma replaceRow (h : Keyed key rows) : Keyed key (replaceRow key r' rows) := by
  unfold Keyed
  rw [map_replaceRow]
  exact h

lemma find?_eq_some_iff (h : Keyed key rows) :
    rows.find? (fun q => key q = k) = some r ↔ r ∈ rows ∧ key r = k := by
  constructor
  · intro hfind
    obtain ⟨hmem, hkey⟩ := mem_of_find? hfind
    exact ⟨hmem, of_decide_eq_true hkey⟩
  · rintro ⟨hmem, rfl⟩
    cases hfind : rows.find? (fun q => key q = key r) with
    | none =>
      have hnone := find?_eq_none.mp hfind r hmem
      simp at hnone
    | some =>
      obtain ⟨hq, hkey⟩ := mem_of_find? hfind
      rw [h.eq hq hmem (of_decide_eq_true hkey)]

lemma replaceRow_of_mem (h : Keyed key rows) (hr : r ∈ rows) :
    Lib.replaceRow key r rows = rows := by
  unfold Lib.replaceRow Lib.updateRows
  refine (map_congr_left fun q hq => ?_).trans (map_id rows)
  by_cases heq : key q = key r
  · simp [h.eq hq hr heq]
  · simp [heq]

lemma updateRows_eq_replaceRow (h : Keyed key rows) {p : α → Prop} [DecidablePred p]
    (hr : r ∈ rows) (hp : p r)
    (hkey : ∀ q, p q → key q = key r)
    (hf : key (f r) = key r) : Lib.updateRows p f rows = Lib.replaceRow key (f r) rows := by
  unfold Lib.replaceRow Lib.updateRows
  refine map_congr_left fun q hq => ?_
  by_cases heq : key q = key r
  · obtain rfl := h.eq hq hr heq
    rw [if_pos hp, if_pos hf.symm]
  · rw [if_neg fun hpq => heq (hkey q hpq), if_neg fun hqf => heq (hqf.trans hf)]

lemma sum_replaceRow (h : Keyed key rows) (hr : r ∈ rows) (hkey : key r' = key r) (w : α → ℕ) :
    ((Lib.replaceRow key r' rows).map w).sum + w r = (rows.map w).sum + w r' := by
  -- Induction on the table: the row is at its head or in its rest, never in both.
  induction rows with
  | nil => exact absurd hr not_mem_nil
  | cons q rest ih =>
    obtain ⟨hnotin, hrest⟩ := nodup_cons.mp h
    have hcons : Lib.replaceRow key r' (q :: rest) =
        (if key q = key r' then r' else q) :: Lib.replaceRow key r' rest := rfl
    rw [hcons]
    rcases mem_cons.mp hr with rfl | hmem
    · have hsame : Lib.replaceRow key r' rest = rest := by
        unfold Lib.replaceRow Lib.updateRows
        refine (map_congr_left fun x hx => ?_).trans (map_id rest)
        have hne : key x ≠ key r' := fun hx' =>
          hnotin (mem_map.mpr ⟨x, hx, hx'.trans hkey⟩)
        simp [hne]
      rw [hsame, if_pos hkey.symm]
      simp only [map_cons, sum_cons]
      omega
    · have hne : key q ≠ key r' := fun hq =>
        hnotin (mem_map.mpr ⟨r, hmem, (hq.trans hkey).symm⟩)
      have hsum := ih hrest hmem
      rw [if_neg hne]
      simp only [map_cons, sum_cons]
      omega

end Keyed

end Nlos.Lib
