import Mathlib

/-!
# Consecutively numbered lists

A list whose elements carry the numbers `base, base + 1, …` in order. Such a list is addressed
by number: the element numbered `n` is at position `n - base`, and selecting a range of numbers
is cutting out a segment.
-/

namespace Nlos.Lib

open List

variable {α : Type}

def Numbered (num : α → ℕ) (base : ℕ) (l : List α) : Prop :=
  l.map num = List.range' base l.length

section

variable {num : α → ℕ} {base : ℕ} {l l' : List α} {a : α}

@[simp] lemma numbered_nil : Numbered num base [] := rfl

@[simp] lemma numbered_cons :
    Numbered num base (a :: l) ↔ num a = base ∧ Numbered num (base + 1) l := by
  simp [Numbered, range'_succ]

lemma numbered_append : Numbered num base (l ++ l') ↔
      Numbered num base l ∧ Numbered num (base + l.length) l' := by
  induction l generalizing base with
  | nil => simp
  | cons b l ih =>
    rw [cons_append, numbered_cons, numbered_cons, ih, and_assoc, length_cons,
      Nat.add_right_comm, Nat.add_assoc]

lemma numbered_iff_getElem? :
    Numbered num base l ↔ ∀ (k : ℕ) (a : α), l[k]? = some a → num a = base + k := by
  induction l generalizing base with
  | nil => simp
  | cons b l ih =>
    rw [numbered_cons, ih]
    constructor
    · rintro ⟨hb, hl⟩ k a hk
      cases k with
      | zero => simp_all
      | succ k =>
        rw [hl k a (by simpa using hk)]
        omega
    · intro h
      refine ⟨by simpa using h 0 b (by simp), fun k a hk => ?_⟩
      rw [h (k + 1) a (by simpa using hk)]
      omega

namespace Numbered

lemma num_eq (h : Numbered num base l) (hk : l[k]? = some a) : num a = base + k :=
  numbered_iff_getElem?.mp h k a hk

lemma map {f : α → α} (h : Numbered num base l) (hf : ∀ a, num (f a) = num a) :
    Numbered num base (l.map f) := by
  rw [Numbered, map_map, length_map, ← h]
  exact map_congr_left fun a _ => hf a

lemma take (h : Numbered num base l) (n : ℕ) : Numbered num base (l.take n) :=
  (numbered_append.mp ((take_append_drop n l).symm ▸ h)).1

lemma drop (h : Numbered num base l) (hn : n ≤ l.length) :
    Numbered num (base + n) (l.drop n) := by
  have := (numbered_append.mp ((take_append_drop n l).symm ▸ h)).2
  rwa [length_take_of_le hn] at this

lemma bounds (h : Numbered num base l) (ha : a ∈ l) : base ≤ num a ∧ num a < base + l.length := by
  obtain ⟨k, hk, rfl⟩ := mem_iff_getElem.mp ha
  have := h.num_eq (getElem?_eq_getElem hk)
  omega

lemma getElem?_of_mem (h : Numbered num base l) (ha : a ∈ l) : l[num a - base]? = some a := by
  obtain ⟨k, hk⟩ := mem_iff_getElem?.mp ha
  rw [h.num_eq hk, Nat.add_sub_cancel_left, hk]

lemma eq_of_num_eq (h : Numbered num base l) (ha : a ∈ l) (hb : b ∈ l)
    (heq : num a = num b) : a = b := by
  have hka := h.getElem?_of_mem ha
  rw [heq, h.getElem?_of_mem hb] at hka
  exact (Option.some.inj hka).symm

/-- Two lists of elements of `l` with the same numbers are equal. -/
lemma eq_of_map_eq (h : Numbered num base l) (h₁ : l₁ ⊆ l) (h₂ : l₂ ⊆ l)
    (hmap : l₁.map num = l₂.map num) : l₁ = l₂ := by
  induction l₁ generalizing l₂ with
  | nil => exact (map_eq_nil_iff.mp hmap.symm).symm
  | cons a l₁ ih =>
    cases l₂ with
    | nil => simp at hmap
    | cons =>
      obtain ⟨ha, hl₁⟩ := cons_subset.mp h₁
      obtain ⟨hb, hl₂⟩ := cons_subset.mp h₂
      obtain ⟨hhead, htail⟩ := List.cons.inj hmap
      rw [h.eq_of_num_eq ha hb hhead, ih hl₁ hl₂ htail]

lemma getLast? (h : Numbered num base l) (ha : l.getLast? = some a) :
    num a + 1 = base + l.length := by
  rw [getLast?_eq_getElem?] at ha
  have hlen := length_pos_of_mem (mem_of_getElem? ha)
  have := h.num_eq ha
  omega

lemma filter_lt (h : Numbered num base l) (n : ℕ) :
    l.filter (fun a => n < num a) = l.drop (n + 1 - base) := by
  induction l generalizing base with
  | nil => simp
  | cons b l ih =>
    obtain ⟨hb, hl⟩ := numbered_cons.mp h
    rw [filter_cons, ih hl, hb]
    by_cases hlt : n < base
    · simp [hlt, show n + 1 - (base + 1) = 0 by omega, show n + 1 - base = 0 by omega]
    · have hcut : n + 1 - base = (n + 1 - (base + 1)) + 1 := by omega
      simp [hlt, hcut]

lemma filter_le (h : Numbered num base l) (n : ℕ) :
    l.filter (fun a => num a ≤ n) = l.take (n + 1 - base) := by
  induction l generalizing base with
  | nil => simp
  | cons b l ih =>
    obtain ⟨hb, hl⟩ := numbered_cons.mp h
    rw [filter_cons, ih hl, hb]
    by_cases hle : base ≤ n
    · have hcut : n + 1 - base = (n + 1 - (base + 1)) + 1 := by omega
      simp [hle, hcut]
    · simp [hle, show n + 1 - (base + 1) = 0 by omega, show n + 1 - base = 0 by omega]

lemma filter_below (h : Numbered num base l) (n : ℕ) :
    l.filter (fun a => num a < n) = l.take (n - base) := by
  cases n with
  | zero => simp
  | succ =>
    rw [← h.filter_le]
    simp

lemma filter_range (h : Numbered num base l) (first last : ℕ) :
    l.filter (fun a => first ≤ num a ∧ num a ≤ last) =
      (l.take (last + 1 - base)).drop (first - base) := by
  rw [← h.filter_le]
  cases first with
  | zero => simp
  | succ n =>
    have hsub := (h.take (last + 1 - base)).filter_lt n
    rw [← h.filter_le, filter_filter] at hsub
    simpa [Nat.succ_le_iff] using hsub

end Numbered

end

end Nlos.Lib
