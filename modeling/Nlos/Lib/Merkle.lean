import Mathlib

/-!
# Tree hashes

A list of digests is hashed two at a time, layer by layer, until one digest is left; the last digest
of an odd layer is hashed alone.
-/

namespace Nlos.Lib.Merkle

open List

variable {δ M : Type} (hash : M → δ) (node : δ → Option δ → M)

/-- The messages of the next layer. -/
def pairUp : List δ → List M
  | [] => []
  | [a] => [node a none]
  | a :: b :: rest => node a (some b) :: pairUp rest

/-- The layer reached from the given one in at most `n` steps, stopping at a single digest. -/
def climb : ℕ → List δ → List δ
  | 0, layer => layer
  | n + 1, layer =>
    if layer.length ≤ 1 then layer else climb n ((pairUp node layer).map hash)

def messages : ℕ → List δ → List M
  | 0, _ => []
  | n + 1, layer =>
    if layer.length ≤ 1 then []
    else pairUp node layer ++ messages n ((pairUp node layer).map hash)

variable {hash node}

lemma length_pairUp (layer : List δ) : (pairUp node layer).length = (layer.length + 1) / 2 := by
  induction layer using pairUp.induct with
  | case1 => simp [pairUp]
  | case2 => simp [pairUp]
  | case3 a b rest ih =>
    simp only [pairUp, length_cons, ih]
    omega

/-- A layer is determined by the messages made from it. -/
lemma pairUp_injective (hnode : ∀ {a a' b b'}, node a b = node a' b' → a = a' ∧ b = b') :
    Function.Injective (pairUp node) := by
  intro l
  induction l using pairUp.induct with
  | case1 =>
    intro l' h
    have hlength := congrArg List.length h
    rw [length_pairUp, length_pairUp] at hlength
    exact (eq_nil_of_length_eq_zero (by simp at hlength; omega)).symm
  | case2 =>
    intro l' h
    match l', h with
    | [b], h =>
      obtain ⟨hab, -⟩ := hnode (List.cons.inj h).1
      rw [hab]
    | b :: c :: rest, h =>
      obtain ⟨-, hnone⟩ := hnode (List.cons.inj h).1
      simp at hnone
  | case3 a b rest ih =>
    intro l' h
    match l', h with
    | [c], h =>
      obtain ⟨-, hnone⟩ := hnode (List.cons.inj h).1
      simp at hnone
    | c :: d :: rest', h =>
      obtain ⟨hhead, htail⟩ := List.cons.inj h
      obtain ⟨hac, hbd⟩ := hnode hhead
      rw [hac, Option.some.inj hbd, ih htail]

/-- Enough steps lead to at most one digest. -/
lemma length_climb_le (h : layer.length ≤ n + 1) :
    (climb hash node n layer).length ≤ 1 := by
  induction n generalizing layer with
  | zero => exact h
  | succ n ih =>
    rw [climb]
    split_ifs with hshort
    · exact hshort
    · refine ih ?_
      rw [length_map, length_pairUp]
      omega

lemma climb_ne_nil (h : layer ≠ []) : climb hash node n layer ≠ [] := by
  induction n generalizing layer with
  | zero => exact h
  | succ n ih =>
    rw [climb]
    split_ifs
    · exact h
    · refine ih fun hnil => h ?_
      have hlength := congrArg List.length hnil
      rw [length_map, length_pairUp, length_nil] at hlength
      exact eq_nil_of_length_eq_zero (by omega)

omit node in
/-- Lists of messages with the same digests are equal, if no two messages collide. -/
lemma eq_of_map_hash_eq {l l' : List M} (hfree : Set.InjOn hash {m | m ∈ l ∨ m ∈ l'})
    (h : l.map hash = l'.map hash) : l = l' := by
  have hlength : l.length = l'.length := by simpa using congrArg List.length h
  refine ext_getElem hlength fun i hi hi' => ?_
  have hdigest : hash l[i] = hash l'[i] := by
    simpa [hi, hi'] using congrArg (fun digests => digests[i]?) h
  exact hfree (.inl (getElem_mem hi)) (.inr (getElem_mem hi')) hdigest

lemma climb_injective (hnode : ∀ {a a' b b'}, node a b = node a' b' → a = a' ∧ b = b')
    {layer layer' : List δ} (hlength : layer.length = layer'.length)
    (hfree : Set.InjOn hash {m | m ∈ messages hash node n layer ∨ m ∈ messages hash node n layer'})
    (h : climb hash node n layer = climb hash node n layer') : layer = layer' := by
  induction n generalizing layer layer' with
  | zero => exact h
  | succ n ih =>
    rw [climb, climb, ← hlength] at h
    split_ifs at h with hshort
    · exact h
    · have hmessages (l : List δ) (hl : ¬ l.length ≤ 1) : messages hash node (n + 1) l =
          pairUp node l ++ messages hash node n ((pairUp node l).map hash) := by
        rw [messages, if_neg hl]
      rw [hmessages layer hshort, hmessages layer' (hlength ▸ hshort)] at hfree
      have hnext : (pairUp node layer).map hash = (pairUp node layer').map hash := by
        refine ih (by simp [length_pairUp, hlength]) (hfree.mono fun m hm => ?_) h
        exact hm.imp (mem_append_right _) (mem_append_right _)
      -- Equal digests of the next layer come from equal messages.
      have hpairs : pairUp node layer = pairUp node layer' := by
        refine eq_of_map_hash_eq (hfree.mono fun m hm => ?_) hnext
        exact hm.imp (mem_append_left _) (mem_append_left _)
      exact pairUp_injective hnode hpairs

end Nlos.Lib.Merkle
