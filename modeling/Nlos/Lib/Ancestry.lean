import Mathlib

/-!
# Lines of descent

A child has a parent, a root has none. The line of an element is the list of its ancestors from
itself to a root. A rank that grows from child to parent and stays below a bound makes every line
finite and bounds its length.
-/

namespace Nlos.Lib

variable {α : Type} {isRoot : α → Prop} {parentOf : α → α → Prop}

inductive Lineage (isRoot : α → Prop) (parentOf : α → α → Prop) : α → List α → Prop
  | root {a : α} : isRoot a → Lineage isRoot parentOf a [a]
  | child {a b : α} {line : List α} :
      parentOf a b → Lineage isRoot parentOf b line → Lineage isRoot parentOf a (a :: line)

namespace Lineage

variable {a : α} {line : List α}

/-- A preorder that holds from child to parent holds from an element to its whole line. -/
lemma rel_of_mem {R : α → α → Prop} (hrefl : ∀ x, R x x)
    (htrans : ∀ ⦃x y z⦄, R x y → R y z → R x z) (hparent : ∀ ⦃x y⦄, parentOf x y → R x y)
    (h : Lineage isRoot parentOf a line) : ∀ x ∈ line, R a x := by
  induction h with
  | @root a _ =>
    intro x hx
    rw [List.mem_singleton.mp hx]
    exact hrefl a
  | @child a b line hab _ ih =>
    intro x hx
    rcases List.mem_cons.mp hx with rfl | hx
    · exact hrefl x
    · exact htrans (hparent hab) (ih x hx)

section Rank

variable {rank : α → ℕ}

lemma rank_le_of_mem (hrank : ∀ ⦃x y⦄, parentOf x y → rank x < rank y)
    (h : Lineage isRoot parentOf a line) : ∀ x ∈ line, rank a ≤ rank x := by
  apply h.rel_of_mem (R := fun x y => rank x ≤ rank y)
  · exact fun x => le_rfl
  · exact fun _ _ _ hxy hyz => hxy.trans hyz
  · exact fun _ _ hxy => (hrank hxy).le

lemma pairwise_rank (hrank : ∀ ⦃x y⦄, parentOf x y → rank x < rank y)
    (h : Lineage isRoot parentOf a line) : line.Pairwise fun x y => rank x < rank y := by
  induction h with
  | root => exact List.pairwise_singleton _ _
  | @child a b line hab hline ih =>
    refine List.pairwise_cons.mpr ⟨fun x hx => ?_, ih⟩
    exact (hrank hab).trans_le (hline.rank_le_of_mem hrank x hx)

/-- Each step up uses one unit of the distance to the bound. -/
lemma rank_add_length_le (hrank : ∀ ⦃x y⦄, parentOf x y → rank x < rank y)
    (hbound : ∀ x, rank x < n) (h : Lineage isRoot parentOf a line) : rank a + line.length ≤ n := by
  induction h with
  | @root a _ =>
    have := hbound a
    simpa using this
  | @child a b line hab _ ih =>
    have := hrank hab
    rw [List.length_cons]
    omega

end Rank

end Lineage

lemma exists_lineage {P : α → Prop} {rank : α → ℕ} (hbound : ∀ x, rank x < n)
    (hparent : ∀ x, P x → isRoot x ∨ ∃ y, P y ∧ parentOf x y ∧ rank x < rank y)
    (ha : P a) : ∃ line, Lineage isRoot parentOf a line := by
  -- Induction on the distance of the rank from the bound, which every step up shortens.
  induction hd : n - rank a using Nat.strong_induction_on generalizing a with
  | _ d ih =>
    rcases hparent a ha with hroot | ⟨b, hb, hab, hlt⟩
    · exact ⟨[a], .root hroot⟩
    · have hn := hbound b
      obtain ⟨line, hline⟩ := ih (n - rank b) (by omega) hb rfl
      exact ⟨a :: line, .child hab hline⟩

end Nlos.Lib
