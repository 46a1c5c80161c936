import Nlos.Consensus.StepMoves
import Nlos.Lib.Numbered
import Nlos.Lib.Run

/-!
# The representation of the log

The tail of a replica's log is numbered from `firstUncompactedIndex` on, and the snapshot boundary,
the commit index and the last index are in order. Steps keep this on any input.
-/

namespace Nlos.Consensus

open Lib List RaftLogEntry

namespace ConsensusCore

variable {c c' : ConsensusCore} {input : ConsensusInput} {effects : List ConsensusEffect}

structure LogOk (c : ConsensusCore) : Prop where
  numbered : Numbered RaftLogEntry.index c.firstUncompactedIndex c.logTail
  snapshot_le : c.snapshotIndex ≤ c.commitIndex
  commit_le : c.commitIndex ≤ c.lastLogIndex

lemma firstUncompactedIndex_eq (c : ConsensusCore) :
    c.firstUncompactedIndex = c.snapshotIndex + 1 := by
  unfold firstUncompactedIndex snapshotIndex
  cases c.snapshotMeta <;> rfl

lemma lastLogIndex_of_numbered (h : Numbered index c.firstUncompactedIndex c.logTail) :
    c.lastLogIndex = c.snapshotIndex + c.logTail.length := by
  unfold lastLogIndex
  split
  · next e he =>
    have hlast := h.getLast? he
    rw [firstUncompactedIndex_eq] at hlast
    omega
  · next hnone =>
    rw [getLast?_eq_none_iff.mp hnone]
    rfl

lemma termAt_of_lt {index} (h : c.snapshotIndex < index) :
    c.termAt index = (c.logTail[index - (c.snapshotIndex + 1)]?).map term := by
  have htail : c.tailTermAt index =
      (c.logTail[index - (c.snapshotIndex + 1)]?).map term := by
    unfold tailTermAt
    rw [firstUncompactedIndex_eq, if_neg (by omega)]
  unfold termAt
  rw [if_neg (by omega)]
  split
  · exact htail
  · next m hm =>
    have hm' : c.snapshotIndex = m.includedIndex := by simp [snapshotIndex, hm]
    rw [if_neg (by omega), if_neg (by omega), htail]

lemma mem_of_mem_collectRange
    (he : e ∈ c.collectRange first last) : e ∈ c.logTail := by
  unfold collectRange at he
  split at he
  · simp at he
  · exact mem_of_mem_filter he

lemma termAt_with_tail {tail index} (hkeep : c.logTail.take (index - c.snapshotIndex) <+: tail)
    (hindex : index ≤ c.snapshotIndex + c.logTail.length) :
    termAt { c with logTail := tail } index = c.termAt index := by
  rcases Nat.lt_or_ge c.snapshotIndex index with hlt | hge
  · have hsnap : snapshotIndex { c with logTail := tail } = c.snapshotIndex := rfl
    rw [termAt_of_lt hlt, termAt_of_lt (c := { c with logTail := tail }) hlt, hsnap]
    obtain ⟨rest, rfl⟩ := hkeep
    rw [getElem?_append_left (by rw [length_take]; omega), getElem?_take_of_lt (by omega)]
  · rcases Nat.eq_zero_or_pos index with rfl | hpos
    · rfl
    · unfold termAt
      cases hm : c.snapshotMeta with
      | none => simp [snapshotIndex, hm] at hge; omega
      | some m =>
        have hm' : c.snapshotIndex = m.includedIndex := by simp [snapshotIndex, hm]
        rcases hge.eq_or_lt with heq | hlt
        · simp [heq, hm', show ¬ m.includedIndex = 0 by omega]
        · simp [show ¬ index = 0 by omega, show ¬ index = m.includedIndex by omega,
            show index < m.includedIndex by omega]

namespace LogOk

lemma lastLogIndex_eq (h : LogOk c) : c.lastLogIndex = c.snapshotIndex + c.logTail.length :=
  lastLogIndex_of_numbered h.numbered

lemma snapshot_lt_index (h : LogOk c) (he : e ∈ c.logTail) :
    c.snapshotIndex < e.index ∧ e.index ≤ c.lastLogIndex := by
  have hbounds := h.numbered.bounds he
  have hlast := h.lastLogIndex_eq
  rw [firstUncompactedIndex_eq] at hbounds
  omega

lemma termAt_index (h : LogOk c) {e} (he : e ∈ c.logTail) : c.termAt e.index = some e.term := by
  have hpos := h.numbered.getElem?_of_mem he
  rw [firstUncompactedIndex_eq] at hpos
  rw [termAt_of_lt (h.snapshot_lt_index he).1, hpos]
  rfl

lemma le_lastLogIndex_of_termAt (h : LogOk c) {index term}
    (hterm : c.termAt index = some term) : index ≤ c.lastLogIndex := by
  rcases Nat.lt_or_ge c.snapshotIndex index with hlt | hle
  · rw [termAt_of_lt hlt, Option.map_eq_some_iff] at hterm
    obtain ⟨e, he, -⟩ := hterm
    have hlen := (List.getElem?_eq_some_iff.mp he).1
    have hlast := h.lastLogIndex_eq
    omega
  · exact hle.trans (h.snapshot_le.trans h.commit_le)

lemma collectRange_eq (h : LogOk c) (hfirst : c.snapshotIndex < first) :
    c.collectRange first last =
      (c.logTail.take (last - c.snapshotIndex)).drop (first - (c.snapshotIndex + 1)) := by
  unfold collectRange
  split
  · next hlt =>
    rw [eq_comm, drop_eq_nil_iff, length_take]
    omega
  · rw [h.numbered.filter_range, firstUncompactedIndex_eq]
    congr 2
    omega

lemma numbered_collectRange (h : LogOk c) (hfirst : c.snapshotIndex < first)
    (hle : first ≤ last + 1) (hlast : last ≤ c.lastLogIndex) :
    Numbered index first (c.collectRange first last) ∧
      (c.collectRange first last).length = last + 1 - first := by
  have hlen := h.lastLogIndex_eq
  rw [h.collectRange_eq hfirst]
  constructor
  · have hdrop := (h.numbered.take (last - c.snapshotIndex)).drop
      (n := first - (c.snapshotIndex + 1)) (by rw [length_take]; omega)
    rwa [firstUncompactedIndex_eq, Nat.add_sub_cancel' hfirst] at hdrop
  · rw [length_drop, length_take]
    omega

lemma congr (h : LogOk c) (hmeta : c'.snapshotMeta = c.snapshotMeta)
    (htail : c'.logTail = c.logTail) (hcommit : c'.commitIndex = c.commitIndex) : LogOk c' := by
  obtain ⟨hnum, hsnap, hlast⟩ := h
  refine ⟨?_, ?_, ?_⟩
  · simpa only [firstUncompactedIndex, hmeta, htail] using hnum
  · simpa only [snapshotIndex, hmeta, hcommit] using hsnap
  · simpa only [lastLogIndex, snapshotIndex, hmeta, htail, hcommit] using hlast

lemma of_tail (hboundary : c.snapshotIndex = boundary)
    (hnum : Numbered index (boundary + 1) c.logTail) (hle : boundary ≤ c.commitIndex)
    (hlast : c.commitIndex ≤ boundary + c.logTail.length) : LogOk c := by
  subst hboundary
  rw [← firstUncompactedIndex_eq] at hnum
  exact ⟨hnum, hle, (lastLogIndex_of_numbered hnum).symm ▸ hlast⟩

lemma with_tail (h : LogOk c) {tail} (hnum : Numbered index c.firstUncompactedIndex tail)
    (hlen : c.commitIndex ≤ c.snapshotIndex + tail.length) : LogOk { c with logTail := tail } where
  numbered := hnum
  snapshot_le := h.snapshot_le
  commit_le := by rwa [lastLogIndex_of_numbered hnum]

lemma with_commit (h : LogOk c) {index} (hle : c.commitIndex ≤ index)
    (hlast : index ≤ c.lastLogIndex) : LogOk { c with commitIndex := index } where
  numbered := h.numbered
  snapshot_le := h.snapshot_le.trans hle
  commit_le := hlast

end LogOk

lemma spliceEntry_keeps {base} (commitIndex : ℕ) {logTail}
    (hnum : Numbered index base logTail) (entry : RaftLogEntry) :
    Numbered index base (spliceEntry base commitIndex logTail entry).logTail ∧
      logTail.take (commitIndex + 1 - base) <+:
        (spliceEntry base commitIndex logTail entry).logTail := by
  have hself := take_prefix (commitIndex + 1 - base) logTail
  unfold spliceEntry
  dsimp only
  split
  · exact ⟨hnum, hself⟩
  · next hbase =>
    split
    · next existing hexisting =>
      split
      · next hconflict =>
        have hpos := (List.getElem?_eq_some_iff.mp hexisting).1
        refine ⟨numbered_append.mpr ⟨hnum.take _, ?_⟩, ?_⟩
        · rw [numbered_cons, List.length_take_of_le hpos.le]
          exact ⟨by omega, numbered_nil⟩
        · -- the committed entries lie below the conflict
          refine List.IsPrefix.trans ?_ (prefix_append _ _)
          exact take_prefix_take_left (by omega)
      · exact ⟨hnum, hself⟩
    · split
      · next hend =>
        refine ⟨numbered_append.mpr ⟨hnum, ?_⟩, hself.trans (prefix_append _ _)⟩
        rw [numbered_cons]
        exact ⟨by omega, numbered_nil⟩
      · exact ⟨hnum, hself⟩

lemma spliceEntries_keeps {base} (commitIndex : ℕ) {logTail}
    (hnum : Numbered index base logTail) (entries : List RaftLogEntry) :
    Numbered index base (spliceEntries base commitIndex logTail entries).logTail ∧
      logTail.take (commitIndex + 1 - base) <+:
        (spliceEntries base commitIndex logTail entries).logTail := by
  induction entries generalizing logTail with
  | nil => exact ⟨hnum, take_prefix _ _⟩
  | cons entry rest ih =>
    unfold spliceEntries
    split
    · obtain ⟨hnum', hkeep⟩ := spliceEntry_keeps commitIndex hnum entry
      obtain ⟨hnum'', hkept'⟩ := ih hnum'
      refine ⟨hnum'', List.IsPrefix.trans ?_ hkept'⟩
      exact prefix_take_iff.mpr ⟨hkeep, length_take_le _ _⟩
    · exact ⟨hnum, take_prefix _ _⟩

def mergedTail (c : ConsensusCore) (entries : List RaftLogEntry) : List RaftLogEntry :=
  (spliceEntries c.firstUncompactedIndex c.commitIndex c.logTail entries).logTail

lemma LogOk.mergedTail (h : LogOk c) (entries : List RaftLogEntry) :
    LogOk { c with logTail := c.mergedTail entries } ∧
      c.logTail.take (c.commitIndex - c.snapshotIndex) <+: c.mergedTail entries := by
  obtain ⟨hnum, hkeep⟩ := spliceEntries_keeps c.commitIndex h.numbered entries
  have hcount : c.commitIndex + 1 - c.firstUncompactedIndex = c.commitIndex - c.snapshotIndex := by
    rw [firstUncompactedIndex_eq]
    omega
  rw [hcount] at hkeep
  refine ⟨h.with_tail hnum ?_, hkeep⟩
  have hlen := hkeep.length_le
  have hlast := h.lastLogIndex_eq
  have hcommit := h.commit_le
  have hsnap := h.snapshot_le
  rw [length_take] at hlen
  change _ ≤ _ + (c.mergedTail entries).length
  unfold ConsensusCore.mergedTail
  omega

lemma reconcile_fst (c : ConsensusCore) (leader : CellIdentity) (entries : List RaftLogEntry)
    (leaderCommit round : ℕ) : ∃ index, c.commitIndex ≤ index ∧
      (index = c.commitIndex ∨ index ≤ lastLogIndex { c with logTail := c.mergedTail entries }) ∧
      (c.reconcileAndCommitEntries leader entries leaderCommit round).1 =
        { c with logTail := c.mergedTail entries, commitIndex := index } := by
  unfold reconcileAndCommitEntries
  dsimp only
  split
  · unfold followLeaderCommit
    split
    · next h => exact ⟨_, h.2.le, .inr (Nat.min_le_right _ _), rfl⟩
    · exact ⟨_, le_refl _, .inl rfl, rfl⟩
  · exact ⟨_, le_refl _, .inl rfl, rfl⟩

lemma acknowledgeRound_eq (c : ConsensusCore) (peer : CellIdentity) (round : ℕ) :
    ∃ rounds, c.acknowledgeRound peer round = { c with quorumRounds := rounds } := by
  unfold acknowledgeRound
  split
  · split <;> exact ⟨_, rfl⟩
  · exact ⟨_, rfl⟩

lemma LogOk.appendProposal (h : LogOk c) {entry} (hindex : entry.index = c.lastLogIndex + 1) :
    LogOk (c.appendProposal entry) ∧ (c.appendProposal entry).lastLogIndex = entry.index := by
  have hlast := h.lastLogIndex_eq
  have hnum : Numbered index c.firstUncompactedIndex (c.logTail ++ [entry]) := by
    rw [numbered_append, numbered_cons, firstUncompactedIndex_eq]
    exact ⟨firstUncompactedIndex_eq c ▸ h.numbered, by omega, numbered_nil⟩
  have hok : LogOk { c with logTail := c.logTail ++ [entry] } := by
    refine h.with_tail hnum ?_
    have := h.commit_le
    rw [length_append]
    omega
  refine ⟨hok.congr rfl rfl rfl, ?_⟩
  unfold ConsensusCore.appendProposal lastLogIndex
  simp

lemma LogOk.installSnapshot (h : LogOk c) {snapshot bytes}
    (hcommit : c.commitIndex < snapshot.includedIndex) :
    LogOk (c.installSnapshot snapshot bytes) := by
  have hnum : Numbered index (snapshot.includedIndex + 1)
      (c.installSnapshot snapshot bytes).logTail := by
    unfold ConsensusCore.installSnapshot
    dsimp only
    split
    · next hmatch =>
      have hlast := h.le_lastLogIndex_of_termAt hmatch
      have hlen := h.lastLogIndex_eq
      have hsnap := h.snapshot_le
      have hdrop := h.numbered.drop (n := snapshot.includedIndex - c.snapshotIndex) (by omega)
      rw [firstUncompactedIndex_eq, show c.snapshotIndex + 1 +
        (snapshot.includedIndex - c.snapshotIndex) = snapshot.includedIndex + 1 by omega] at hdrop
      rwa [h.numbered.filter_lt, firstUncompactedIndex_eq, Nat.add_sub_add_right]
    · exact numbered_nil
  have hcommit' : (c.installSnapshot snapshot bytes).commitIndex = snapshot.includedIndex :=
    Nat.max_eq_right hcommit.le
  exact .of_tail rfl hnum hcommit'.ge (hcommit'.le.trans (Nat.le_add_right _ _))

lemma LogOk.move (h : LogOk c) (hmove : Move input c effects c') : LogOk c' := by
  cases hmove with
  | quiet hstate =>
    exact h.congr (protocol_congr snapshotMeta (fun _ => rfl) hstate)
      (protocol_congr logTail (fun _ => rfl) hstate)
      (protocol_congr commitIndex (fun _ => rfl) hstate)
  | propose => exact (h.appendProposal rfl).1
  | proposeAlone _ _ _ hentry =>
    obtain ⟨hok, hlast⟩ := h.appendProposal (congrArg index hentry)
    have hcommit := h.commit_le
    refine hok.with_commit ?_ hlast.ge
    rw [hentry]
    exact hcommit.trans (Nat.le_succ _)
  | commit _ hlt hlast => exact h.with_commit hlt.le hlast
  | reconcile =>
    obtain ⟨index, hle, hindex, hfst⟩ := c.reconcile_fst _ _ _ _
    rw [hfst]
    rcases hindex with rfl | hindex
    · exact (h.mergedTail _).1
    · exact (h.mergedTail _).1.with_commit hle hindex
  | acknowledge =>
    obtain ⟨rounds, heq⟩ := c.acknowledgeRound_eq _ _
    rw [heq]
    exact h.congr rfl rfl rfl
  | install _ _ hcommit => exact h.installSnapshot hcommit
  | _ => exact h.congr rfl rfl rfl

/-- Every input leaves the log numbered and the commit index within it. -/
lemma LogOk.step (h : LogOk c) (input : ConsensusInput) : LogOk (c.step input).1 :=
  Moves.invariant (P := fun d _ => LogOk d) h (fun hd hmove => hd.move hmove) (moves_step c input)

/-- A call that leaves the boundary and the tail in step: it is refused, moves the boundary to
the end of what it drops, or drops nothing. -/
def SnapshotAligned (c : ConsensusCore) (snapshot : SnapshotMetadata) (compactUpTo : ℕ) : Prop :=
  snapshot.includedIndex = 0 ∨ c.commitIndex < snapshot.includedIndex ∨
    snapshot.includedIndex < c.snapshotIndex ∨ snapshot.includedIndex ≤ compactUpTo ∨
    compactUpTo < c.firstUncompactedIndex

lemma any_snapshotMeta_iff (snapshot : SnapshotMetadata) :
    (c.snapshotMeta.any fun existing => snapshot.includedIndex < existing.includedIndex) = true ↔
      snapshot.includedIndex < c.snapshotIndex := by
  unfold snapshotIndex
  cases c.snapshotMeta <;> simp

/-- Dropping a part of the tail breaks the numbering, unless nothing goes. -/
lemma LogOk.numbered_drop_iff (h : LogOk c) (hn : 0 < n → n < c.logTail.length) :
    Numbered index c.firstUncompactedIndex (c.logTail.drop n) ↔ n = 0 := by
  constructor
  · intro hnum
    by_contra hpos
    have hn := hn (Nat.pos_of_ne_zero hpos)
    obtain ⟨e, he⟩ : ∃ e, c.logTail[n]? = some e := ⟨_, getElem?_eq_getElem hn⟩
    have hfirst : (c.logTail.drop n)[0]? = some e := by simpa using he
    have hthere := hnum.num_eq hfirst
    have hhere := h.numbered.num_eq he
    omega
  · rintro rfl
    exact h.numbered

def compacted (c : ConsensusCore) (snapshot : SnapshotMetadata) (bytes : List UInt8) :
    ConsensusCore :=
  { c with
    logTail := c.logTail.filter fun e => snapshot.includedIndex < e.index
    snapshotMeta := some snapshot
    snapshotBytes := some bytes
    snapshotSendOffset := ∅ }

lemma LogOk.compacted (h : LogOk c) (hcommit : snapshot.includedIndex ≤ c.commitIndex)
    (hsnap : c.snapshotIndex ≤ snapshot.includedIndex) (bytes : List UInt8) :
    LogOk (c.compacted snapshot bytes) ∧
      (c.compacted snapshot bytes).lastLogIndex = c.lastLogIndex := by
  have hlast := h.lastLogIndex_eq
  have hle := h.commit_le
  have htail : (c.compacted snapshot bytes).logTail =
      c.logTail.drop (snapshot.includedIndex - c.snapshotIndex) := by
    unfold ConsensusCore.compacted
    rw [h.numbered.filter_lt, firstUncompactedIndex_eq, Nat.add_sub_add_right]
  have hlen : (c.compacted snapshot bytes).logTail.length =
      c.logTail.length - (snapshot.includedIndex - c.snapshotIndex) := by
    rw [htail, length_drop]
  have hnum : Numbered index (snapshot.includedIndex + 1)
      (c.compacted snapshot bytes).logTail := by
    have hdrop := h.numbered.drop (n := snapshot.includedIndex - c.snapshotIndex) (by omega)
    rwa [firstUncompactedIndex_eq, show c.snapshotIndex + 1 +
      (snapshot.includedIndex - c.snapshotIndex) = snapshot.includedIndex + 1 by omega,
      ← htail] at hdrop
  have hboundary : (c.compacted snapshot bytes).snapshotIndex = snapshot.includedIndex := rfl
  have hok : LogOk (c.compacted snapshot bytes) := by
    refine .of_tail hboundary hnum hcommit ?_
    change c.commitIndex ≤ _
    omega
  refine ⟨hok, ?_⟩
  rw [hok.lastLogIndex_eq, hlen, hlast, hboundary]
  omega

lemma logOk_recordLocalSnapshot_iff (h : LogOk c) (snapshot : SnapshotMetadata)
    (bytes : List UInt8) (compactUpTo : ℕ) :
    LogOk (c.recordLocalSnapshot snapshot bytes compactUpTo).1 ↔
      c.SnapshotAligned snapshot compactUpTo := by
  have hlast := h.lastLogIndex_eq
  have hcommit := h.commit_le
  have hfirst := c.firstUncompactedIndex_eq
  unfold recordLocalSnapshot SnapshotAligned
  split
  · exact iff_of_true h (by omega)
  · next hpos =>
    split
    · next hold =>
      rw [any_snapshotMeta_iff] at hold
      exact iff_of_true h (by omega)
    · next hold =>
      rw [any_snapshotMeta_iff] at hold
      dsimp only
      split
      · next htarget =>
        rw [htarget]
        exact iff_of_true (h.compacted (by omega) (by omega) bytes).1 (by omega)
      · next htarget =>
        -- the boundary stays, so that no entry may go
        have hmin : min compactUpTo snapshot.includedIndex = compactUpTo := by omega
        rw [hmin, h.numbered.filter_lt, hfirst, Nat.add_sub_add_right]
        have hdrop := h.numbered_drop_iff (n := compactUpTo - c.snapshotIndex)
          (by omega)
        constructor
        · intro hok
          have hzero := hdrop.mp hok.numbered
          omega
        · intro haligned
          rw [show compactUpTo - c.snapshotIndex = 0 by omega, drop_zero]
          exact h

lemma logOk_new {localId roster timing} (h : new localId roster timing = .ok c) : LogOk c := by
  obtain ⟨domain, -, ⟨-, rfl⟩ | ⟨-, rfl⟩⟩ := new_eq_ok h
  · exact .of_tail rfl numbered_nil (le_refl 0) (le_refl 0)
  · exact .of_tail rfl numbered_nil (le_refl 0) (le_refl 0)

/-- Durable state with a contiguous tail that reaches the commit index. -/
structure RestartOk (state : RehydratedCoreState) : Prop where
  numbered : Numbered RaftLogEntry.index (state.snapshotIndex + 1) state.logTail
  commit_le : state.commitIndex ≤ state.snapshotIndex + state.logTail.length

lemma RestartOk.logOk_loadLog (h : RestartOk state)
    (c : ConsensusCore) : LogOk (c.loadLog state) :=
  .of_tail rfl h.numbered (Nat.le_max_right _ _)
    (Nat.max_le.mpr ⟨h.commit_le, Nat.le_add_right _ _⟩)

lemma logOk_rehydrate {localId roster timing state} (hstate : RestartOk state)
    (h : rehydrate localId roster timing state = .ok c) : LogOk c := by
  unfold rehydrate at h
  split at h
  · simp at h
  · next core hnew =>
    have hload := hstate.logOk_loadLog core
    dsimp only at h
    split at h
    · obtain rfl := Except.ok.inj h
      exact (hload.with_commit hload.commit_le (le_refl _)).congr rfl rfl rfl
    · obtain rfl := Except.ok.inj h
      exact hload.congr rfl rfl rfl

inductive CoreCall where
  | step (input : ConsensusInput)
  | recordLocalSnapshot (snapshot : SnapshotMetadata) (snapshotBytes : List UInt8) (compactUpTo : ℕ)

def call (c : ConsensusCore) : CoreCall → Except Empty (ConsensusCore × List ConsensusEffect)
  | .step input => .ok (c.step input)
  | .recordLocalSnapshot snapshot bytes compactUpTo =>
    .ok ((c.recordLocalSnapshot snapshot bytes compactUpTo).1, [])

/-- The replica was built at genesis or from durable state with a contiguous tail. -/
inductive Starts : ConsensusCore → Prop
  | new {localId : CellIdentity} {roster : ValidatedVoterRoster}
      {timing : ConsensusTimingConfig} {c : ConsensusCore} :
      new localId roster timing = .ok c → Starts c
  | rehydrate {localId : CellIdentity} {roster : ValidatedVoterRoster}
      {timing : ConsensusTimingConfig} {state : RehydratedCoreState} {c : ConsensusCore} :
      RestartOk state → rehydrate localId roster timing state = .ok c → Starts c

lemma Starts.logOk (h : Starts c) : LogOk c := by
  cases h with
  | new hnew => exact logOk_new hnew
  | rehydrate hstate hload => exact logOk_rehydrate hstate hload

/-- Local snapshots keep the boundary and the tail in step. -/
def CoreCall.Aligned (c : ConsensusCore) : CoreCall → Prop
  | .step _ => True
  | .recordLocalSnapshot snapshot _ compactUpTo => c.SnapshotAligned snapshot compactUpTo

lemma LogOk.call (h : LogOk c) (haligned : action.Aligned c)
    (hcall : c.call action = .ok (c', effects)) : LogOk c' := by
  cases action with
  | step input =>
    obtain ⟨rfl, rfl⟩ := Prod.mk.inj (Except.ok.inj hcall)
    exact h.step input
  | recordLocalSnapshot snapshot bytes compactUpTo =>
    obtain ⟨rfl, -⟩ := Prod.mk.inj (Except.ok.inj hcall)
    exact (logOk_recordLocalSnapshot_iff h snapshot bytes compactUpTo).mpr haligned

lemma LogOk.run (hok : LogOk c) (hrun : Run ConsensusCore.call c h c')
    (haligned : ∀ e ∈ h, e.input.Aligned e.pre) : LogOk c' := by
  induction hrun with
  | refl => exact hok
  | snoc _ hcall ih =>
    have hlast := ih fun e he => haligned e (mem_append_left _ he)
    exact hlast.call (haligned _ (mem_append_right _ (mem_singleton_self _))) hcall

/-- What a reader of the log relies on: positions, bounds and terms. -/
structure LogRepresentation (c : ConsensusCore) : Prop where
  index_eq : ∀ (k : ℕ) (e : RaftLogEntry), c.logTail[k]? = some e →
    e.index = c.firstUncompactedIndex + k
  snapshot_le : c.snapshotIndex ≤ c.commitIndex
  commit_le : c.commitIndex ≤ c.lastLogIndex
  termAt_eq : ∀ e ∈ c.logTail, c.termAt e.index = some e.term

lemma LogOk.representation (h : LogOk c) : LogRepresentation c where
  index_eq := numbered_iff_getElem?.mp h.numbered
  snapshot_le := h.snapshot_le
  commit_le := h.commit_le
  termAt_eq _ he := h.termAt_index he

/-- The log is represented consistently after every run in which each local snapshot is refused,
compacts up to its own boundary, or compacts nothing. -/
theorem logRepresentation_of_run {h : List (Event ConsensusCore CoreCall (List ConsensusEffect))}
    (hstart : Starts c) (hrun : Run ConsensusCore.call c h c')
    (haligned : ∀ e ∈ h, e.input.Aligned e.pre) : LogRepresentation c' :=
  (hstart.logOk.run hrun haligned).representation

def soleVoter : ValidatedVoterRoster where
  members := [⟨1, 1⟩]
  nonempty := by decide
  cells_nodup := by decide
  domains_nodup := by decide
  ne_two := by decide

def trustProposal : ControlPlaneProposal :=
  ⟨1, .cellDirectoryMutation (.advanceTrustPolicyEpoch 1 0)⟩

def soleReplica : ConsensusCore :=
  { genesis 1 1 soleVoter .default with
    role := .leader
    currentTerm := 1
    votedFor := some 1
    knownLeader := some 1
    votesGrantedDomains := {1}
    nextIndex := (∅ : Table CellIdentity ℕ).insert 1 1
    matchIndex := (∅ : Table CellIdentity ℕ).insert 1 0
    leaderLease := ⟨1, 5, 0⟩ }

def soleReplicaAtTwo : ConsensusCore :=
  ((soleReplica.step (.propose trustProposal none)).1.step (.propose trustProposal none)).1

/-- It takes a snapshot of both and compacts up to the given index. -/
def soleReplicaCompacted (compactUpTo : ℕ) : ConsensusCore :=
  (soleReplicaAtTwo.recordLocalSnapshot ⟨2, 1, 0⟩ [] compactUpTo).1

lemma starts_soleReplica : Starts soleReplica :=
  .new (show new 1 soleVoter .default = .ok soleReplica from rfl)

def soleHistory (compactUpTo : ℕ) : List (Event ConsensusCore CoreCall (List ConsensusEffect)) :=
  let first := soleReplica.step (.propose trustProposal none)
  [⟨soleReplica, .step (.propose trustProposal none), first.2⟩,
    ⟨first.1, .step (.propose trustProposal none), (first.1.step (.propose trustProposal none)).2⟩,
    ⟨soleReplicaAtTwo, .recordLocalSnapshot ⟨2, 1, 0⟩ [] compactUpTo, []⟩]

lemma run_soleHistory (compactUpTo : ℕ) :
    Run ConsensusCore.call soleReplica (soleHistory compactUpTo)
      (soleReplicaCompacted compactUpTo) :=
  ((Run.refl.snoc rfl).snoc rfl).snoc rfl

theorem logRepresentation_soleReplicaCompacted : LogRepresentation (soleReplicaCompacted 2) := by
  refine logRepresentation_of_run starts_soleReplica (run_soleHistory 2) fun e he => ?_
  simp only [soleHistory, mem_cons, not_mem_nil, or_false] at he
  rcases he with rfl | rfl | rfl
  · trivial
  · trivial
  · exact .inr (.inr (.inr (.inl (le_refl 2))))

/-- Compacting less than the snapshot covers drops an entry without moving the boundary, so that
the entry at position zero no longer has the first uncompacted index. -/
theorem not_logRepresentation_of_partial_compaction :
    Starts soleReplica ∧ ∃ h, Run ConsensusCore.call soleReplica h (soleReplicaCompacted 1) ∧
      (∀ e ∈ h, ∀ snapshot bytes compactUpTo,
        e.input = .recordLocalSnapshot snapshot bytes compactUpTo →
          snapshot.includedIndex ≤ e.pre.commitIndex ∧ compactUpTo ≤ snapshot.includedIndex) ∧
      ¬ LogRepresentation (soleReplicaCompacted 1) := by
  refine ⟨starts_soleReplica, soleHistory 1, run_soleHistory 1, ?_, fun hrepr => ?_⟩
  · intro e he snapshot bytes compactUpTo hinput
    simp only [soleHistory, mem_cons, not_mem_nil, or_false] at he
    rcases he with rfl | rfl | rfl
    · cases hinput
    · cases hinput
    · cases hinput
      exact ⟨by decide +kernel, by decide⟩
  · have htail : ((soleReplicaCompacted 1).logTail[0]?).map RaftLogEntry.index = some 2 := by
      decide +kernel
    obtain ⟨e, he, hindex⟩ := Option.map_eq_some_iff.mp htail
    have hexpected := hrepr.index_eq 0 e he
    have hfirst : (soleReplicaCompacted 1).firstUncompactedIndex = 1 := by decide +kernel
    omega

end ConsensusCore

end Nlos.Consensus
