import Nlos.Lib.Guarded

/-!
# Rows of a relational table

A table with declared keys is kept as the list of its rows in insertion order. A row is added
only when no stored row clashes with it, and an update rewrites the rows a condition selects.
-/

namespace Nlos.Lib

open List

variable {α κ : Type}

def insertRow (clash : α → Prop) [DecidablePred clash] (row : α) (rows : List α) :
    Option (List α) :=
  if ∃ r ∈ rows, clash r then none else some (rows ++ [row])

/-- A row added to a table; a clash with a declared key is refused with `e`. -/
def insertOrRefuse (e : ε) (clash : α → Prop) [DecidablePred clash] (row : α) (rows : List α) :
    Except ε (List α) :=
  orRefuse (insertRow clash row rows) e

def updateRows (p : α → Prop) [DecidablePred p] (f : α → α) (rows : List α) : List α :=
  rows.map fun r => if p r then f r else r

/-- A row is added at the end, and only if nothing stored clashes with it. -/
lemma insertRow_eq_some {clash : α → Prop} [DecidablePred clash] :
    insertRow clash row rows = some rows' ↔ (∀ r ∈ rows, ¬ clash r) ∧ rows' = rows ++ [row] := by
  unfold insertRow
  split
  · next hclash =>
    obtain ⟨r, hr, hc⟩ := hclash
    exact ⟨fun h => by simp at h, fun h => absurd hc (h.1 r hr)⟩
  · next hclash =>
    push Not at hclash
    exact ⟨fun h => ⟨hclash, (Option.some.inj h).symm⟩, fun h => congrArg some h.2.symm⟩

lemma insertOrRefuse_eq_ok {e : ε} {clash : α → Prop} [DecidablePred clash] :
    insertOrRefuse e clash row rows = .ok rows' ↔
      (∀ r ∈ rows, ¬ clash r) ∧ rows' = rows ++ [row] := by
  rw [insertOrRefuse, orRefuse_eq_ok, insertRow_eq_some]

lemma filter_append_of_not {rows new : List α} (h : ∀ r ∈ new, q r = false) :
    (rows ++ new).filter q = rows.filter q := by
  have hnone : new.filter q = [] := filter_eq_nil_iff.mpr fun r hr => by simp [h r hr]
  rw [filter_append, hnone, append_nil]

section Update

variable {p : α → Prop} [DecidablePred p] {f : α → α} {rows : List α}

/-- A row of the result was not selected, or is the image of one that was. -/
lemma mem_updateRows :
    r ∈ updateRows p f rows ↔ (r ∈ rows ∧ ¬ p r) ∨ ∃ q ∈ rows, p q ∧ f q = r := by
  unfold updateRows
  rw [mem_map]
  constructor
  · rintro ⟨q, hq, rfl⟩
    by_cases hp : p q
    · exact .inr ⟨q, hq, hp, by simp [hp]⟩
    · exact .inl (by simpa [hp] using hq)
  · rintro (⟨hr, hp⟩ | ⟨q, hq, hp, rfl⟩)
    · exact ⟨r, hr, by simp [hp]⟩
    · exact ⟨q, hq, by simp [hp]⟩

lemma exists_of_mem_updateRows (h : r ∈ updateRows p f rows) :
    ∃ q ∈ rows, r = q ∨ (p q ∧ r = f q) := by
  rcases mem_updateRows.mp h with ⟨hr, -⟩ | ⟨q, hq, hp, rfl⟩
  · exact ⟨r, hr, .inl rfl⟩
  · exact ⟨q, hq, .inr ⟨hp, rfl⟩⟩

lemma exists_mem_updateRows {β : Type} (g : α → β) (hg : ∀ r, g (f r) = g r)
    (h : q ∈ rows) : ∃ r ∈ updateRows p f rows, g r = g q := by
  by_cases hq : p q
  · exact ⟨f q, mem_updateRows.mpr (.inr ⟨q, h, hq, rfl⟩), hg q⟩
  · exact ⟨q, mem_updateRows.mpr (.inl ⟨h, hq⟩), rfl⟩

/-- An update outside a selection is not seen through it. -/
lemma filter_updateRows (hq : ∀ r ∈ rows, p r → q r = false ∧ q (f r) = false) :
    (updateRows p f rows).filter q = rows.filter q := by
  induction rows with
  | nil => rfl
  | cons r rest ih =>
    have hrest := ih fun r' hr' => hq r' (mem_cons_of_mem _ hr')
    have hcons : updateRows p f (r :: rest) = (if p r then f r else r) :: updateRows p f rest :=
      rfl
    rw [hcons]
    by_cases hp : p r
    · obtain ⟨hold, hnew⟩ := hq r mem_cons_self hp
      simp [hp, hold, hnew, hrest]
    · simp [hp, filter_cons, hrest]

lemma map_updateRows {β : Type} {g : α → β} (hg : ∀ r, g (f r) = g r) :
    (updateRows p f rows).map g = rows.map g := by
  unfold updateRows
  rw [map_map]
  refine map_congr_left fun r _ => ?_
  simp only [Function.comp_apply]
  split <;> simp [hg]

end Update

/-- An update commutes with a view that determines its condition and its effect. -/
lemma map_updateRows_view {β : Type} {p : α → Prop} [DecidablePred p] {f rows view}
    {p' : β → Prop} [DecidablePred p'] {f'}
    (hp : ∀ r, p r ↔ p' (view r)) (hf : ∀ r, view (f r) = f' (view r)) :
    (updateRows p f rows).map view = updateRows p' f' (rows.map view) := by
  unfold updateRows
  rw [map_map, map_map]
  refine map_congr_left fun r _ => ?_
  by_cases hr : p r
  · simp [hr, (hp r).mp hr, hf]
  · have hr' : ¬ p' (view r) := fun h => hr ((hp r).mpr h)
    simp [hr, hr']

def Keyed (key : α → κ) (rows : List α) : Prop := (rows.map key).Nodup

lemma keyed_nil (key : α → κ) : Keyed key ([] : List α) := nodup_nil

namespace Keyed

variable {key : α → κ} {rows : List α}

lemma eq (h : Keyed key rows) (hr : r ∈ rows) (hr' : r' ∈ rows)
    (hkey : key r = key r') : r = r' :=
  inj_on_of_nodup_map h hr hr' hkey

lemma append (h : Keyed key rows) (hnew : Keyed key new)
    (hfresh : ∀ r ∈ rows, ∀ q ∈ new, key r ≠ key q) : Keyed key (rows ++ new) := by
  unfold Keyed
  rw [map_append, nodup_append]
  refine ⟨h, hnew, ?_⟩
  intro k hk k' hk'
  obtain ⟨r, hr, rfl⟩ := mem_map.mp hk
  obtain ⟨q, hq, rfl⟩ := mem_map.mp hk'
  exact hfresh r hr q hq

lemma append_singleton (h : Keyed key rows) (hnew : ∀ r ∈ rows, key r ≠ key row) :
    Keyed key (rows ++ [row]) := by
  refine h.append (nodup_singleton _) ?_
  intro r hr q hq
  rw [mem_singleton.mp hq]
  exact hnew r hr

lemma updateRows {p : α → Prop} [DecidablePred p] (h : Keyed key rows)
    (hf : ∀ r, key (f r) = key r) : Keyed key (updateRows p f rows) := by
  unfold Keyed
  rw [map_updateRows hf]
  exact h

lemma countP_le_one (h : Keyed key rows)
    (hq : ∀ r ∈ rows, ∀ r' ∈ rows, q r = true → q r' = true → r = r') : rows.countP q ≤ 1 := by
  rw [countP_eq_length_filter]
  have hnodup : (rows.filter q).Nodup := (List.Nodup.of_map key h).filter q
  have hmem : ∀ r ∈ rows.filter q, r ∈ rows ∧ q r = true := fun r hr => mem_filter.mp hr
  generalize rows.filter q = selected at hnodup hmem ⊢
  rcases selected with _ | ⟨r, _ | ⟨r', rest⟩⟩
  · simp
  · simp
  · have hr := hmem r (by simp)
    have hr' := hmem r' (by simp)
    have heq := hq r hr.1 r' hr'.1 hr.2 hr'.2
    simp [heq] at hnodup

end Keyed

/-- Every row stands in the relation to the rows before it. -/
def EachAfter (P : List α → α → Prop) (rows : List α) : Prop :=
  ∀ l₁ r l₂, rows = l₁ ++ r :: l₂ → P l₁ r

lemma eachAfter_nil (P : List α → α → Prop) : EachAfter P [] := by
  intro l₁ r l₂ h
  simp at h

namespace EachAfter

variable {P Q : List α → α → Prop} {rows : List α}

lemma append_singleton (h : EachAfter P rows) (hrow : P rows row) :
    EachAfter P (rows ++ [row]) := by
  intro l₁ r l₂ hsplit
  rcases eq_nil_or_concat' l₂ with rfl | ⟨l₂', last, rfl⟩
  · obtain ⟨rfl, hlast⟩ := append_inj' hsplit rfl
    rwa [← (List.cons.inj hlast).1]
  · rw [← cons_append, ← append_assoc] at hsplit
    exact h l₁ r l₂' (append_inj' hsplit rfl).1

end EachAfter

lemma mem_of_find? {rows : List α} (h : rows.find? q = some r) : r ∈ rows ∧ q r = true :=
  ⟨mem_of_find?_eq_some h, find?_some h⟩

end Nlos.Lib
