import Nlos.Lib.Guarded

/-!
# Calls on a state

A call either answers, is refused with an error of its own, or runs into an addition that leaves
the 64-bit range. A refused call of the first kind leaves the state; an overflow ends the run.
-/

namespace Nlos.Lib

variable {σ ε ε' α β : Type}

/-- Why a call does not answer as asked. -/
inductive Fault (ε : Type) where
  | refused (e : ε)
  | overflow
deriving DecidableEq

abbrev Call (ε α : Type) := Except (Fault ε) α

def add64 (a b : ℕ) : Call ε ℕ :=
  if a + b < 2 ^ 64 then .ok (a + b) else .error .overflow

/-- The successor of a 64-bit counter, if there is one. -/
def next64 (n : ℕ) : Option ℕ := if n + 1 < 2 ^ 64 then some (n + 1) else none

def refuse (p : Prop) [Decidable p] (e : ε) : Call ε Unit := refuseIf p (.refused e)

def expect (o : Option α) (e : ε) : Call ε α := orRefuse o (.refused e)

def Call.within (f : ε → ε') : Call ε α → Call ε' α
  | .ok a => .ok a
  | .error (.refused e) => .error (.refused (f e))
  | .error .overflow => .error .overflow

/-- The state a call leaves and its answer; a refused call leaves the state it began in. -/
def Call.settle (s : σ) : Call ε (σ × α) → Except Unit (σ × Except ε α)
  | .ok (t, a) => .ok (t, .ok a)
  | .error (.refused e) => .ok (s, .error e)
  | .error .overflow => .error ()

/-- A call in parts: what the first part wrote stays when a later one is refused. -/
def Call.settleThen (s : σ) (x : Call ε (σ × α)) (f : σ → α → Except Unit (σ × Except ε β)) :
    Except Unit (σ × Except ε β) :=
  match x with
  | .ok (t, a) => f t a
  | .error (.refused e) => .ok (s, .error e)
  | .error .overflow => .error ()

lemma add64_eq_ok : (add64 a b : Call ε ℕ) = .ok c ↔ a + b < 2 ^ 64 ∧ c = a + b := by
  unfold add64
  split
  · next h => simp only [Except.ok.injEq, h, true_and, eq_comm]
  · next h => simp only [reduceCtorEq, h, false_and]

lemma refuse_eq_ok {p : Prop} [Decidable p] {e : ε} : refuse p e = .ok u ↔ ¬ p :=
  refuseIf_eq_ok

lemma expect_eq_ok {o : Option α} {e : ε} : expect o e = .ok a ↔ o = some a :=
  orRefuse_eq_ok

lemma within_eq_ok {f : ε → ε'} {x : Call ε α} : x.within f = .ok a ↔ x = .ok a := by
  rcases x with (e | _) | b <;> simp [Call.within]

/-- A sequence overflows in its first part or, after that has answered, in its second. -/
lemma bind_eq_overflow {f : α → Call ε β} : (x >>= f) = .error .overflow ↔
      x = .error .overflow ∨ ∃ a, x = .ok a ∧ f a = .error .overflow := by
  cases x <;> simp [bind, Except.bind]

lemma add64_eq_overflow : (add64 a b : Call ε ℕ) = .error .overflow ↔ 2 ^ 64 ≤ a + b := by
  unfold add64
  split
  · next h => simp only [reduceCtorEq, Nat.not_le.mpr h]
  · next h => simp only [Nat.not_lt.mp h]

lemma refuse_ne_overflow {p : Prop} [Decidable p] {e : ε} : refuse p e ≠ .error .overflow := by
  unfold refuse refuseIf
  split <;> simp

lemma expect_ne_overflow {o : Option α} {e : ε} : expect o e ≠ .error .overflow := by
  cases o <;> simp [expect, orRefuse]

lemma within_eq_overflow {f : ε → ε'} {x : Call ε α} :
    x.within f = .error .overflow ↔ x = .error .overflow := by
  rcases x with (e | _) | b <;> simp [Call.within]

lemma bind_ne_overflow {f : α → Call ε β} (hx : x ≠ .error .overflow)
    (hf : ∀ a, x = .ok a → f a ≠ .error .overflow) : (x >>= f) ≠ .error .overflow := by
  rw [ne_eq, bind_eq_overflow]
  rintro (h | ⟨a, ha, h⟩)
  · exact hx h
  · exact hf a ha h

lemma add64_ne_overflow (h : a + b < 2 ^ 64) : (add64 a b : Call ε ℕ) ≠ .error .overflow :=
  mt add64_eq_overflow.mp h.not_ge

lemma within_ne_overflow {f : ε → ε'} {x : Call ε α} (hx : x ≠ .error .overflow) :
    x.within f ≠ .error .overflow :=
  mt within_eq_overflow.mp hx

lemma mapError_ne_overflow {δ : Type} {f : δ → ε} {x : Except δ α} :
    x.mapError (Fault.refused ∘ f) ≠ .error .overflow := by
  cases x <;> simp [Except.mapError]

variable {x : Call ε (σ × α)}

/-- A call that does not overflow answers, and a refusal leaves the state. -/
lemma settle_eq_ok : x.settle s = .ok (t, r) ↔
      (∃ a, x = .ok (t, a) ∧ r = .ok a) ∨ ∃ e, x = .error (.refused e) ∧ t = s ∧ r = .error e := by
  rcases x with (e | _) | ⟨u, a⟩
  · simp [Call.settle, eq_comm]
  · simp [Call.settle]
  · simp [Call.settle, eq_comm, and_comm]

lemma settle_eq_error : x.settle s = .error u ↔ x = .error .overflow := by
  rcases x with (e | _) | ⟨t, a⟩ <;> simp [Call.settle]

/-- The second call runs only after the first has succeeded. -/
lemma settleThen_eq_ok {f : σ → α → Except Unit (σ × Except ε β)}
    (h : x.settleThen s f = .ok (t, r)) : (∃ u a, x = .ok (u, a) ∧ f u a = .ok (t, r)) ∨ t = s := by
  rcases x with (e | _) | ⟨u, a⟩
  · obtain ⟨rfl, -⟩ : s = t ∧ _ := by simpa [Call.settleThen] using h
    exact .inr rfl
  · simp [Call.settleThen] at h
  · exact .inl ⟨u, a, rfl, h⟩

lemma settleThen_eq_error {f : σ → α → Except Unit (σ × Except ε β)} :
    x.settleThen s f = .error v ↔
      x = .error .overflow ∨ ∃ u a, x = .ok (u, a) ∧ f u a = .error v := by
  rcases x with (e | _) | ⟨u, a⟩ <;> simp [Call.settleThen]

end Nlos.Lib
