import Mathlib

/-!
# Runs with their histories

A system is a partial step function that reads an input and reports an output. A run keeps
every event with the state it started from, so that properties of whole histories can be
stated and proved by extending a run at its end.
-/

namespace Nlos.Lib

variable {σ α β ε : Type}

/-- One step of a run: the state before it, what it read and what it reported. -/
structure Event (σ α β : Type) where
  pre : σ
  input : α
  output : β

/-- `Run f s h t`: from `s` the events of `h` happen in order and end in `t`. -/
inductive Run (f : σ → α → Except ε (σ × β)) (s : σ) : List (Event σ α β) → σ → Prop
  | refl : Run f s [] s
  | snoc {h : List (Event σ α β)} {t u : σ} {a : α} {b : β} :
      Run f s h t → f t a = .ok (u, b) → Run f s (h ++ [⟨t, a, b⟩]) u

/-- The states a run goes through, the last one included. -/
def states (h : List (Event σ α β)) (t : σ) : List σ := h.map Event.pre ++ [t]

/-- Feeds a list of inputs to the system, collecting the history. -/
def runAll (f : σ → α → Except ε (σ × β)) (s : σ) :
    List α → Except ε (List (Event σ α β) × σ)
  | [] => .ok ([], s)
  | a :: as =>
    match f s a with
    | .error e => .error e
    | .ok (t, b) =>
      match runAll f t as with
      | .error e => .error e
      | .ok (h, u) => .ok (⟨s, a, b⟩ :: h, u)

namespace Run

variable {f : σ → α → Except ε (σ × β)} {s t u : σ} {h h₁ h₂ : List (Event σ α β)}

/-- A property of the start that every step keeps holds at the end of every run. -/
lemma invariant {P : σ → Prop} (hs : P s)
    (hstep : ∀ {t u a b}, P t → f t a = .ok (u, b) → P u) (hrun : Run f s h t) : P t := by
  induction hrun with
  | refl => exact hs
  | snoc _ hf ih => exact hstep ih hf

lemma trans (h₁run : Run f s h₁ t) (h₂run : Run f t h₂ u) : Run f s (h₁ ++ h₂) u := by
  induction h₂run with
  | refl => simpa using h₁run
  | snoc _ hf ih => simpa using ih.snoc hf

lemma single (hf : f s a = .ok (t, b)) : Run f s [⟨s, a, b⟩] t :=
  Run.refl.snoc hf

lemma snoc_iff :
    Run f s (h ++ [e]) u ↔ Run f s h e.pre ∧ f e.pre e.input = .ok (u, e.output) := by
  refine ⟨fun hrun => ?_, fun ⟨hrun, hf⟩ => hrun.snoc hf⟩
  generalize hfull : h ++ [e] = full at hrun
  cases hrun with
  | refl => simp at hfull
  | snoc hpre hf =>
    obtain ⟨rfl, rfl⟩ := List.append_inj' hfull rfl |>.imp_right List.cons.inj |>.imp_right
      And.left
    exact ⟨hpre, hf⟩

lemma split (hrun : Run f s (h₁ ++ e :: h₂) u) :
    Run f s h₁ e.pre ∧ ∃ t, f e.pre e.input = .ok (t, e.output) ∧ Run f t h₂ u := by
  induction h₂ using List.reverseRecOn generalizing u with
  | nil =>
    obtain ⟨hpre, hf⟩ := snoc_iff.mp hrun
    exact ⟨hpre, u, hf, .refl⟩
  | append_singleton h₂ e' ih =>
    have hassoc : h₁ ++ e :: (h₂ ++ [e']) = (h₁ ++ e :: h₂) ++ [e'] := by simp
    rw [hassoc, snoc_iff] at hrun
    obtain ⟨hpre, t, hf, hrest⟩ := ih hrun.1
    exact ⟨hpre, t, hf, snoc_iff.mpr ⟨hrest, hrun.2⟩⟩

lemma split_at (hrun : Run f s h u) (ht : t ∈ states h u) :
    ∃ h₁ h₂, h = h₁ ++ h₂ ∧ Run f s h₁ t ∧ Run f t h₂ u := by
  rcases List.mem_append.mp ht with hpre | hlast
  · obtain ⟨e, he, rfl⟩ := List.mem_map.mp hpre
    obtain ⟨h₁, h₂, rfl⟩ := List.append_of_mem he
    obtain ⟨hrun₁, v, hstep, hrun₂⟩ := hrun.split
    exact ⟨h₁, e :: h₂, rfl, hrun₁, (single hstep).trans hrun₂⟩
  · obtain rfl := List.mem_singleton.mp hlast
    exact ⟨h, [], by simp, hrun, .refl⟩

end Run

variable {f : σ → α → Except ε (σ × β)}

lemma run_of_runAll (hall : runAll f s as = .ok (h, t)) :
    Run f s h t ∧ h.map Event.input = as := by
  induction as generalizing s h with
  | nil =>
    obtain ⟨rfl, rfl⟩ : [] = h ∧ s = t := by simpa [runAll] using hall
    exact ⟨.refl, rfl⟩
  | cons a as ih =>
    cases hf : f s a with
    | error => simp [runAll, hf] at hall
    | ok p =>
      obtain ⟨u, b⟩ := p
      cases hrest : runAll f u as with
      | error => simp [runAll, hf, hrest] at hall
      | ok q =>
        obtain ⟨h', t'⟩ := q
        obtain ⟨rfl, rfl⟩ : (⟨s, a, b⟩ :: h') = h ∧ t' = t := by
          simpa [runAll, hf, hrest] using hall
        obtain ⟨hrun, hmap⟩ := ih hrest
        exact ⟨(Run.single hf).trans hrun, by simp [hmap]⟩

def runCheck (f : σ → α → Except ε (σ × β)) (s : σ) (as : List α)
    (check : List (Event σ α β) → σ → Bool) : Bool :=
  match runAll f s as with
  | .ok (h, t) => check h t
  | .error _ => false

lemma exists_run_of_runCheck (hcheck : runCheck f s as check = true) :
    ∃ h t, Run f s h t ∧ h.map Event.input = as ∧ check h t = true := by
  unfold runCheck at hcheck
  split at hcheck
  · next h t hall =>
    obtain ⟨hrun, hinputs⟩ := run_of_runAll hall
    exact ⟨h, t, hrun, hinputs, hcheck⟩
  · simp at hcheck

lemma runAll_snoc (hall : runAll f s as = .ok (h, t)) (hf : f t a = .ok (u, b)) :
    runAll f s (as ++ [a]) = .ok (h ++ [⟨t, a, b⟩], u) := by
  induction as generalizing s h with
  | nil =>
    obtain ⟨rfl, rfl⟩ : [] = h ∧ s = t := by simpa [runAll] using hall
    simp [runAll, hf]
  | cons c as ih =>
    cases hc : f s c with
    | error => simp [runAll, hc] at hall
    | ok p =>
      obtain ⟨v, d⟩ := p
      cases hrest : runAll f v as with
      | error => simp [runAll, hc, hrest] at hall
      | ok q =>
        obtain ⟨h', t'⟩ := q
        obtain ⟨rfl, rfl⟩ : (⟨s, c, d⟩ :: h') = h ∧ t' = t := by
          simpa [runAll, hc, hrest] using hall
        simp [runAll, hc, ih hrest]

end Nlos.Lib
