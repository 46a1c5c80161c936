import Nlos.Consensus.LogRepr

/-!
# Merging a leader's entries

Merging consecutive entries skips those the log already has and then either stops, extends the log
at its end, or replaces the log from the first conflict on.
-/

namespace Nlos.Consensus

open Lib List

namespace ConsensusCore

/-- The log already holds an entry of the same index, with the same term or committed. -/
def Holds (base commitIndex : ℕ) (logTail : List RaftLogEntry) (e : RaftLogEntry) : Prop :=
  ∃ x, logTail[e.index - base]? = some x ∧ (x.term = e.term ∨ e.index ≤ commitIndex)

inductive Merged (base commitIndex : ℕ) (logTail entries : List RaftLogEntry) : Splice → Prop
  | held : (∀ e ∈ entries, Holds base commitIndex logTail e) →
      Merged base commitIndex logTail entries ⟨logTail, [], [], true⟩
  | extended {skipped rest : List RaftLogEntry} {e : RaftLogEntry} :
      entries = skipped ++ e :: rest → (∀ x ∈ skipped, Holds base commitIndex logTail x) →
      e.index = base + logTail.length →
      Merged base commitIndex logTail entries ⟨logTail ++ e :: rest, [], e :: rest, true⟩
  | replaced {skipped rest : List RaftLogEntry} {e x : RaftLogEntry} :
      entries = skipped ++ e :: rest → (∀ x ∈ skipped, Holds base commitIndex logTail x) →
      base ≤ e.index → logTail[e.index - base]? = some x → x.term ≠ e.term → commitIndex < e.index →
      Merged base commitIndex logTail entries
        ⟨logTail.take (e.index - base) ++ e :: rest, [.truncateLogSuffixFrom e.index], e :: rest,
          true⟩

variable {base commitIndex : ℕ} {logTail entries : List RaftLogEntry}

lemma Merged.intact_eq (h : Merged base commitIndex logTail entries s) : s.intact = true := by
  cases h <;> rfl

lemma spliceEntries_of_end
    (hentries : Numbered RaftLogEntry.index (base + logTail.length) entries)
    (hintact : ∀ e ∈ entries, e.verifyIntegrity = true) :
    spliceEntries base commitIndex logTail entries = ⟨logTail ++ entries, [], entries, true⟩ := by
  induction entries generalizing logTail with
  | nil => simp [spliceEntries]
  | cons e rest ih =>
    obtain ⟨hindex, hrest⟩ := numbered_cons.mp hentries
    have hpos : e.index - base = logTail.length := by omega
    have hpush : spliceEntry base commitIndex logTail e = ⟨logTail ++ [e], [], [e], true⟩ := by
      simp [spliceEntry, hpos, show ¬ e.index < base by omega]
    have hlen : base + (logTail ++ [e]).length = base + logTail.length + 1 := by
      simp [Nat.add_assoc]
    rw [spliceEntries, if_pos (hintact e mem_cons_self), hpush]
    rw [← hlen] at hrest
    dsimp only
    rw [ih hrest fun x hx => hintact x (mem_cons_of_mem _ hx)]
    simp

lemma merged_spliceEntries (hentries : Numbered RaftLogEntry.index first entries)
    (hintact : ∀ e ∈ entries, e.verifyIntegrity = true) (hbase : base ≤ first)
    (hgap : first ≤ base + logTail.length) : Merged base commitIndex logTail entries
      (spliceEntries base commitIndex logTail entries) := by
  induction entries generalizing first with
  | nil => exact .held (by simp)
  | cons e rest ih =>
    obtain ⟨hindex, hrest⟩ := numbered_cons.mp hentries
    have hintact' : ∀ x ∈ rest, x.verifyIntegrity = true :=
      fun x hx => hintact x (mem_cons_of_mem _ hx)
    rcases hgap.eq_or_lt with hend | hinside
    · rw [spliceEntries_of_end (hend ▸ hentries) hintact]
      exact .extended (nil_append (e :: rest)).symm (by simp) (by omega)
    · have hpos : e.index - base < logTail.length := by omega
      set x := logTail[e.index - base] with hx
      have hget : logTail[e.index - base]? = some x := getElem?_eq_getElem hpos
      rw [spliceEntries, if_pos (hintact e mem_cons_self)]
      by_cases hconflict : x.term ≠ e.term ∧ commitIndex < e.index
      · -- the first conflict: the rest is pushed behind it
        have hfirst : spliceEntry base commitIndex logTail e =
            ⟨logTail.take (e.index - base) ++ [e], [.truncateLogSuffixFrom e.index], [e],
              true⟩ := by
          simp [spliceEntry, hget, hconflict, show ¬ e.index < base by omega]
        have hlen : base + (logTail.take (e.index - base) ++ [e]).length = first + 1 := by
          simp only [length_append, length_take_of_le hpos.le, length_singleton]
          omega
        rw [hfirst]
        dsimp only
        rw [spliceEntries_of_end (hlen ▸ hrest) hintact']
        simpa using Merged.replaced (nil_append (e :: rest)).symm (by simp) (by omega) hget
          hconflict.1 hconflict.2
      · -- the entry is there already
        have hfirst : spliceEntry base commitIndex logTail e = ⟨logTail, [], [], true⟩ := by
          simp [spliceEntry, hget, hconflict, show ¬ e.index < base by omega]
        have hheld : Holds base commitIndex logTail e :=
          ⟨x, hget, by by_contra h; exact hconflict (by push Not at h; exact h)⟩
        have hskip : ∀ {skipped : List RaftLogEntry},
            (∀ y ∈ skipped, Holds base commitIndex logTail y) →
              ∀ y ∈ e :: skipped, Holds base commitIndex logTail y :=
          fun h y hy => (mem_cons.mp hy).elim (fun heq => heq ▸ hheld) (h y)
        rw [hfirst]
        dsimp only
        have hih := ih hrest hintact' (by omega) (by omega)
        generalize spliceEntries base commitIndex logTail rest = s at hih ⊢
        cases hih with
        | held h => exact .held (hskip h)
        | extended heq h hend => exact .extended (by rw [heq, cons_append]) (hskip h) hend
        | replaced heq h hle hsome hterm hlt =>
          exact .replaced (by rw [heq, cons_append]) (hskip h) hle hsome hterm hlt

lemma reconcile_of_intact {c : ConsensusCore}
    (hs : s = spliceEntries c.firstUncompactedIndex c.commitIndex c.logTail entries)
    (hintact : s.intact = true) (leader : CellIdentity) (leaderCommit round : ℕ) :
    c.reconcileAndCommitEntries leader entries leaderCommit round =
      let result := followLeaderCommit { c with logTail := s.logTail } leaderCommit
      (result.1, s.truncations ++ appendEffects s.newlyAppended ++ result.2 ++
        [result.1.appendResponse leader true result.1.lastLogIndex none 0 round]) := by
  subst hs
  unfold reconcileAndCommitEntries
  simp only [hintact, ↓reduceIte]

end ConsensusCore

end Nlos.Consensus
