import Nlos.Lib.Table

/-!
# A pool and what is taken from it

Stored values hold part of a fixed total, the pool holds the rest. A system whose steps move
amounts between the two keeps the total in every run, and relates every stored value to its later
versions.
-/

namespace Nlos.Lib

open Std Table

variable {α β : Type} {cmp : α → α → Ordering} [TransCmp cmp] [LawfulEqCmp cmp]

/-- The pool and the stored values hold the total between them. -/
def Escrow (held : β → ℕ) (total pool : ℕ) (t : ExtTreeMap α β cmp) : Prop :=
  pool + Table.sum held t = total

namespace Escrow

variable {held : β → ℕ} {total pool refund : ℕ} {t : ExtTreeMap α β cmp} {k : α} {v w : β}

omit [LawfulEqCmp cmp] in
lemma empty : Escrow held total total (∅ : ExtTreeMap α β cmp) := by
  simp [Escrow]

lemma take (h : Escrow held total pool t) (hnew : t[k]? = none) (hle : held v ≤ pool) :
    Escrow held total (pool - held v) (t.insert k v) := by
  unfold Escrow at h ⊢
  rw [sum_insert_of_none held v hnew]
  omega

lemma pool_add_le (h : Escrow held total pool t) (hold : t[k]? = some v) :
    pool + held v ≤ total := by
  have hle := le_sum held hold
  unfold Escrow at h
  omega

end Escrow

structure Pooled (α β : Type) (cmp : α → α → Ordering) where
  pool : ℕ
  rows : ExtTreeMap α β cmp

namespace Pooled

variable {sound : α → β → Prop} {held : β → ℕ} {revises : β → β → Prop}
  {b c d : Pooled α β cmp} {total : ℕ}

/-- A new value is taken out of the pool, or a stored one is revised and the pool settles the
difference. What a revision does is asked of sound values only. -/
inductive Move (sound : α → β → Prop) (held : β → ℕ) (revises : β → β → Prop) :
    Pooled α β cmp → Pooled α β cmp → Prop
  | take {pool pool' rows k v} : rows[k]? = none → sound k v → pool' + held v = pool →
      Move sound held revises ⟨pool, rows⟩ ⟨pool', rows.insert k v⟩
  | revise {pool pool' rows k v w} : rows[k]? = some v →
      (sound k v → sound k w ∧ revises v w ∧ pool' + held w = pool + held v) →
      Move sound held revises ⟨pool, rows⟩ ⟨pool', rows.insert k w⟩

def Moves (sound : α → β → Prop) (held : β → ℕ) (revises : β → β → Prop) :
    Pooled α β cmp → Pooled α β cmp → Prop :=
  Relation.ReflTransGen (Move sound held revises)

/-- Every stored value is sound and the total is kept. -/
structure Conserves (sound : α → β → Prop) (held : β → ℕ) (total : ℕ)
    (b : Pooled α β cmp) : Prop where
  sound : ∀ (k : α) (v : β), b.rows[k]? = some v → sound k v
  escrow : Escrow held total b.pool b.rows

lemma sound_insert {rows : ExtTreeMap α β cmp}
    (hrows : ∀ (a : α) (v : β), rows[a]? = some v → sound a v) (hw : sound k w) (a : α) (v : β)
    (hv : (rows.insert k w)[a]? = some v) : sound a v := by
  classical
  rw [getElem?_insert_eq] at hv
  split at hv
  · next heq =>
    rw [← heq, ← Option.some.inj hv]
    exact hw
  · exact hrows a v hv

lemma Move.conserves (hmove : Move sound held revises b c) (h : b.Conserves sound held total) :
    c.Conserves sound held total := by
  cases hmove with
  | @take pool pool' rows k v hnew hv hpool =>
    refine ⟨sound_insert h.sound hv, ?_⟩
    have htake := h.escrow.take hnew (show held v ≤ pool by omega)
    have hrest : pool - held v = pool' := by omega
    rwa [hrest] at htake
  | @revise pool pool' rows k v w hold hrevise =>
    obtain ⟨hw, -, hpool⟩ := hrevise (h.sound k v hold)
    refine ⟨sound_insert h.sound hw, ?_⟩
    have hsum := sum_insert_of_some held w hold
    have hescrow : pool + sum held rows = total := h.escrow
    show pool' + sum held (rows.insert k w) = total
    omega

lemma Moves.conserves (hmoves : Moves sound held revises b c)
    (h : b.Conserves sound held total) : c.Conserves sound held total := by
  induction hmoves with
  | refl => exact h
  | tail _ hmove ih => exact hmove.conserves ih

lemma moves_modifyAll {pool f} {good : β → Prop}
    (hrevises : ∀ (k : α) (v : β), good v → sound k v →
      sound k (f v) ∧ revises v (f v) ∧ held (f v) = held v) (ks : List α) :
    ∀ rows : ExtTreeMap α β cmp, ks.Nodup → (∀ k ∈ ks, ∃ v, rows[k]? = some v ∧ good v) →
      Moves sound held revises ⟨pool, rows⟩ ⟨pool, modifyAll f rows ks⟩ := by
  induction ks with
  | nil => exact fun _ _ _ => .refl
  | cons k ks ih =>
    intro rows hnodup hks
    obtain ⟨hnotin, hnodup⟩ := List.nodup_cons.mp hnodup
    obtain ⟨v, hv, hgood⟩ := hks k List.mem_cons_self
    have hrest : ∀ a ∈ ks, ∃ w, (rows.insert k (f v))[a]? = some w ∧ good w := by
      intro a ha
      have hne : k ≠ a := fun heq => hnotin (heq ▸ ha)
      rw [getElem?_insert_ne hne]
      exact hks a (List.mem_cons_of_mem _ ha)
    have hmove : Move sound held revises ⟨pool, rows⟩ ⟨pool, rows.insert k (f v)⟩ := by
      refine .revise hv fun hsound => ?_
      obtain ⟨hw, hvw, hheld⟩ := hrevises k v hgood hsound
      exact ⟨hw, hvw, by rw [hheld]⟩
    simp only [modifyAll, hv]
    exact .head hmove (ih _ hnodup hrest)

/-- Every stored value has a later version, reached by revisions. -/
def Revised (revises : β → β → Prop) (b c : Pooled α β cmp) : Prop :=
  ∀ (k : α) (v : β), b.rows[k]? = some v →
    ∃ w, c.rows[k]? = some w ∧ Relation.ReflTransGen revises v w

omit [LawfulEqCmp cmp] in
lemma Revised.refl : b.Revised revises b := fun _ v hv => ⟨v, hv, .refl⟩

omit [LawfulEqCmp cmp] in
lemma Revised.trans (hbc : b.Revised revises c) (hcd : c.Revised revises d) :
    b.Revised revises d := by
  intro k v hv
  obtain ⟨w, hw, hvw⟩ := hbc k v hv
  obtain ⟨u, hu, hwu⟩ := hcd k w hw
  exact ⟨u, hu, hvw.trans hwu⟩

lemma Move.revised (hmove : Move sound held revises b c) (h : b.Conserves sound held total) :
    b.Revised revises c := by
  classical
  intro a u hu
  cases hmove with
  | @take _ _ rows k v hnew _ _ =>
    have hne : k ≠ a := by
      rintro rfl
      rw [hnew] at hu
      cases hu
    exact ⟨u, (getElem?_insert_ne hne).trans hu, .refl⟩
  | @revise _ _ rows k v w hold hrevise =>
    by_cases heq : k = a
    · subst heq
      obtain rfl : v = u := Option.some.inj (hold.symm.trans hu)
      obtain ⟨-, hvw, -⟩ := hrevise (h.sound k v hold)
      refine ⟨w, ?_, .single hvw⟩
      rw [getElem?_insert_eq, if_pos rfl]
    · exact ⟨u, (getElem?_insert_ne heq).trans hu, .refl⟩

lemma Moves.revised (hmoves : Moves sound held revises b c)
    (h : b.Conserves sound held total) : b.Revised revises c := by
  induction hmoves with
  | refl => exact .refl
  | tail hmoves hmove ih => exact ih.trans (hmove.revised (Moves.conserves hmoves h))

end Pooled

end Nlos.Lib
