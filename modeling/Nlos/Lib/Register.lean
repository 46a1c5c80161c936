import Nlos.Lib.Run

/-!
# Compare-and-set registers

A register of a system is written by some events and kept by all others. When every write is
checked against the stored value, the writes of any history form a chain that starts with an
initial write, and the register holds the last of them.
-/

namespace Nlos.Lib

variable {σ α β ε V W : Type}

structure Register (σ α β V W : Type) where
  /-- What an event writes, if it writes. -/
  write : Event σ α β → Option V
  /-- What the register keeps of a write. -/
  view : V → W
  stored : σ → Option W
  /-- The check of a write against the stored value, if there is one. -/
  admits : Option W → V → Prop

namespace Register

variable (r : Register σ α β V W) {f : σ → α → Except ε (σ × β)}

def writes (h : List (Event σ α β)) : List V := h.filterMap r.write

/-- Every step of the system checks what it writes and keeps what it does not write. -/
structure Checked (f : σ → α → Except ε (σ × β)) : Prop where
  keep : ∀ {s t a b}, f s a = .ok (t, b) → r.write ⟨s, a, b⟩ = none → r.stored t = r.stored s
  store : ∀ {s t a b v}, f s a = .ok (t, b) → r.write ⟨s, a, b⟩ = some v →
    r.stored t = some (r.view v) ∧ r.admits (r.stored s) v

structure Chained (h : List (Event σ α β)) (t : σ) : Prop where
  chain : (r.writes h).IsChain fun u v => r.admits (some (r.view u)) v
  head : ∀ v ∈ (r.writes h).head?, r.admits none v
  stored_eq : r.stored t = (r.writes h).getLast?.map r.view

variable {r} {s t : σ} {h : List (Event σ α β)}

lemma Checked.chained (hr : r.Checked f) (hs : r.stored s = none) (hrun : Run f s h t) :
    r.Chained h t := by
  induction hrun with
  | refl => exact ⟨by simp [writes], by simp [writes], by simpa [writes] using hs⟩
  | @snoc h t u a b _ hf ih =>
    cases hw : r.write ⟨t, a, b⟩ with
    | none =>
      have hsame : r.writes (h ++ [⟨t, a, b⟩]) = r.writes h := by simp [writes, hw]
      exact ⟨by rw [hsame]; exact ih.chain, by rw [hsame]; exact ih.head,
        by rw [hsame, hr.keep hf hw]; exact ih.stored_eq⟩
    | some v =>
      have hsnoc : r.writes (h ++ [⟨t, a, b⟩]) = r.writes h ++ [v] := by simp [writes, hw]
      obtain ⟨hstored, hadmits⟩ := hr.store hf hw
      rw [ih.stored_eq] at hadmits
      refine ⟨?_, ?_, ?_⟩
      · rw [hsnoc, List.isChain_append]
        refine ⟨ih.chain, .singleton v, fun u hu w hw' => ?_⟩
        obtain rfl : v = w := by simpa using hw'
        rwa [Option.mem_def.mp hu, Option.map_some] at hadmits
      · intro w hw'
        rw [hsnoc] at hw'
        cases hold : r.writes h with
        | nil =>
          obtain rfl : v = w := by simpa [hold] using hw'
          simpa [hold] using hadmits
        | cons => exact ih.head w (by simpa [hold] using hw')
      · rw [hsnoc, hstored]
        simp

/-- A transitive check orders all writes, not only neighbours. -/
lemma Chained.pairwise {R : V → V → Prop} [IsTrans V R] (hc : r.Chained h t)
    (hR : ∀ u v, r.admits (some (r.view u)) v → R u v) : (r.writes h).Pairwise R :=
  List.isChain_iff_pairwise.mp (hc.chain.imp hR)

end Register

end Nlos.Lib
