import Mathlib

/-!
# Guarded computations

A computation that checks its preconditions one by one and stops at the first that fails. The
rules turn the success of a whole computation into the conjunction of its checks.
-/

namespace Nlos.Lib

variable {ε ε' α β : Type}

/-- Fails with `e` when the condition holds. -/
def refuseIf (p : Prop) [Decidable p] (e : ε) : Except ε Unit :=
  if p then .error e else .ok ()

/-- The value of an option, or the given error. -/
def orRefuse (o : Option α) (e : ε) : Except ε α :=
  match o with
  | some a => .ok a
  | none => .error e

/-- A check of the value of an option, when there is one. -/
def forSome (o : Option α) (f : α → Except ε Unit) : Except ε Unit :=
  match o with
  | some a => f a
  | none => .ok ()

/-- The state a transaction leaves and its answer; a failed one leaves the state it began in. -/
def commit {σ : Type} (s : σ) : Except ε (σ × α) → σ × Except ε α
  | .ok (t, a) => (t, .ok a)
  | .error e => (s, .error e)

variable {x : Except ε α} {b : β}

lemma bind_eq_ok : (x >>= f) = .ok b ↔ ∃ a, x = .ok a ∧ f a = .ok b := by
  cases x <;> simp [bind, Except.bind]

lemma bind_eq_error {f : α → Except ε β} :
    (x >>= f) = .error e ↔ x = .error e ∨ ∃ a, x = .ok a ∧ f a = .error e := by
  cases x <;> simp [bind, Except.bind]

variable {f : α → β}

lemma map_eq_ok : (f <$> x) = .ok b ↔ ∃ a, x = .ok a ∧ f a = b := by
  cases x <;> simp [Functor.map, Except.map]

lemma pure_eq_ok {a b} : (pure a : Except ε α) = .ok b ↔ a = b := by
  simp [pure, Except.pure]

variable {σ : Type}

/-- A computation that ends by returning a state returns that state. -/
lemma eq_of_bind_pure {s t : σ} (h : (x >>= fun a => pure (s, f a)) = .ok (t, b)) : s = t := by
  obtain ⟨a, -, h⟩ := bind_eq_ok.mp h
  exact congrArg Prod.fst (pure_eq_ok.mp h)

lemma eq_of_bind_bind_pure {γ : Type} {y : α → Except ε γ} {f : α → γ → β}
    {s t : σ} (h : (x >>= fun a => y a >>= fun c => pure (s, f a c)) = .ok (t, b)) : s = t := by
  obtain ⟨a, -, h⟩ := bind_eq_ok.mp h
  exact eq_of_bind_pure h

lemma map_snd_eq_ok {x : Except ε (σ × α)} :
    (Prod.map id f <$> x) = .ok (t, b) ↔ ∃ a, x = .ok (t, a) ∧ f a = b := by
  simp [map_eq_ok, Prod.map]

lemma eq_of_map {s t : σ} (h : ((fun a => (s, f a)) <$> x) = .ok (t, b)) : s = t := by
  obtain ⟨a, -, h⟩ := map_eq_ok.mp h
  exact congrArg Prod.fst h

lemma mapError_eq_ok {f : ε → ε'} : x.mapError f = .ok a ↔ x = .ok a := by
  cases x <;> simp [Except.mapError]

lemma refuseIf_eq_ok {p : Prop} [Decidable p] {e : ε} : refuseIf p e = .ok u ↔ ¬ p := by
  unfold refuseIf
  split <;> simp_all

lemma orRefuse_eq_ok {o : Option α} {e : ε} : orRefuse o e = .ok a ↔ o = some a := by
  cases o <;> simp [orRefuse]

lemma forSome_eq_ok {f : α → Except ε Unit} :
    forSome o f = .ok u ↔ ∀ a ∈ o, f a = .ok () := by
  cases o <;> simp [forSome]

lemma commit_eq_ok {x : Except ε (σ × α)} :
    commit s x = (t, .ok a) ↔ x = .ok (t, a) := by
  rcases x with e | ⟨u, b⟩ <;> simp [commit]

lemma commit_eq_error {x : Except ε (σ × α)} :
    commit s x = (t, .error e) ↔ x = .error e ∧ t = s := by
  rcases x with e' | ⟨u, b⟩ <;> simp [commit, eq_comm, and_comm]

lemma ite_error_eq_ok {p : Prop} [Decidable p] :
    (if p then .error e else x) = .ok a ↔ ¬ p ∧ x = .ok a := by
  split <;> simp_all

/-- A loop of checks succeeds when every one of them does. -/
lemma forM_eq_ok {l : List α} {f : α → Except ε Unit} :
    l.forM f = .ok u ↔ ∀ a ∈ l, f a = .ok () := by
  induction l with
  | nil => simp [List.forM, pure, Except.pure]
  | cons a l ih =>
    change (f a >>= fun _ => l.forM f) = .ok u ↔ _
    rw [bind_eq_ok, List.forall_mem_cons]
    simp only [ih]
    exact ⟨fun ⟨_, ha, hl⟩ => ⟨ha, hl⟩, fun ⟨ha, hl⟩ => ⟨(), ha, hl⟩⟩

/-- What every step of a fold keeps holds at its end. -/
lemma foldlM_invariant {P : β → Prop} {f : β → α → Except ε β}
    (hstep : ∀ {b a b'}, P b → f b a = .ok b' → P b') {l : List α} (hb : P b)
    (h : l.foldlM f b = .ok b') : P b' := by
  induction l generalizing b with
  | nil => exact pure_eq_ok.mp h ▸ hb
  | cons a l ih =>
    rw [List.foldlM_cons, bind_eq_ok] at h
    obtain ⟨c, hc, hrest⟩ := h
    exact ih (hstep hb hc) hrest

end Nlos.Lib
