import Nlos.Consensus.Election

/-!
# Replies to append messages

A follower answers an append message it accepts with the last index of its whole log, and it merges
the entries before a corrupt one. Both go further than the message warrants; the results here say
exactly when they do not.
-/

namespace Nlos.Consensus

open Lib List

def ConsensusEffect.isHarmless : ConsensusEffect → Bool
  | .persistHardState .. | .leaderSteppedDown .. | .proposalRejected .. => true
  | .sendMessage _ (.appendEntriesResponse _ _ success ..) => !success
  | _ => false

namespace ConsensusCore

variable {c : ConsensusCore} {sender leader : CellIdentity} {entries used : List RaftLogEntry}
  {term prevLogIndex prevLogTerm leaderCommit round m : ℕ}

/-- The message passes the checks before the one of its entries. -/
def Admits (c : ConsensusCore) (sender leader : CellIdentity) (term : ℕ) : Prop :=
  c.roster.contains sender ∧ sender ≠ c.localId ∧ leader = sender ∧ c.currentTerm ≤ term

/-- The state in which the entries of an admitted message are checked. -/
def following (c : ConsensusCore) (term : ℕ) (leader : CellIdentity) : ConsensusCore :=
  (c.observeTerm term).1.followLeader leader

lemma following_log (c : ConsensusCore) (term : ℕ) (leader : CellIdentity) :
    (c.following term leader).snapshotMeta = c.snapshotMeta ∧
      (c.following term leader).logTail = c.logTail ∧
      (c.following term leader).commitIndex = c.commitIndex := by
  unfold following observeTerm
  split <;> exact ⟨rfl, rfl, rfl⟩

lemma observeTerm_harmless (h : e ∈ (c.observeTerm term).2) : e.isHarmless := by
  unfold observeTerm at h
  split at h
  · simp only [stepDownToHigherTerm, mem_append, mem_singleton, mem_map] at h
    rcases h with (rfl | h) | ⟨rid, -, rfl⟩
    · rfl
    · split at h
      · rw [mem_singleton.mp h]
        rfl
      · cases h
    · rfl
  · cases h

lemma step_of_admits (h : c.Admits sender leader term) :
    c.step (.receiveMessage sender (.appendEntries term leader prevLogIndex prevLogTerm entries
        leaderCommit round)) =
      let merged := (c.following term leader).checkAndReconcile leader prevLogIndex prevLogTerm
        entries leaderCommit round
      (merged.1, (c.observeTerm term).2 ++ merged.2) := by
  obtain ⟨hmem, hne, hclaimed, hterm⟩ := h
  have hlate : ¬ term < (c.observeTerm term).1.currentTerm := by
    unfold observeTerm
    split
    · exact lt_irrefl term
    · exact not_lt_of_ge hterm
  simp [step, onMessage, hmem, hne, RaftMessage.claimedSender, hclaimed, dispatchMessage,
    onAppendEntries, hlate, following]

/-- The step keeps the log, the commit index and the snapshot, and reports no success. -/
structure Untouched (c : ConsensusCore) (r : ConsensusCore × List ConsensusEffect) : Prop where
  snapshotMeta : r.1.snapshotMeta = c.snapshotMeta
  logTail : r.1.logTail = c.logTail
  commitIndex : r.1.commitIndex = c.commitIndex
  harmless : ∀ e ∈ r.2, e.isHarmless

lemma untouched_of_not_admits (h : ¬ c.Admits sender leader term) :
    c.Untouched (c.step (.receiveMessage sender (.appendEntries term leader prevLogIndex
      prevLogTerm entries leaderCommit round))) := by
  change c.Untouched (c.onMessage ..)
  unfold onMessage
  split
  · exact ⟨rfl, rfl, rfl, nofun⟩
  split
  · exact ⟨rfl, rfl, rfl, nofun⟩
  next hmem hclaimed =>
  have hlate : term < c.currentTerm := by
    by_contra hterm
    simp only [not_or, Bool.not_eq_false, RaftMessage.claimedSender, not_not] at hmem hclaimed
    exact h ⟨hmem.1, hmem.2, hclaimed, not_lt.mp hterm⟩
  have hsame : c.observeTerm term = (c, []) := if_neg hlate.le.not_gt
  simp only [dispatchMessage, onAppendEntries, hsame, hlate, if_true]
  exact ⟨rfl, rfl, rfl, by simp [appendResponse, ConsensusEffect.isHarmless]⟩

/-- The entries that the consistency check lets through to the merge. -/
def passed (c : ConsensusCore) (prevLogIndex prevLogTerm : ℕ) (entries : List RaftLogEntry) :
    Option (List RaftLogEntry) :=
  if prevLogIndex < c.snapshotIndex then
    let above := entries.filter fun e => c.snapshotIndex < e.index
    if ∃ first ∈ above.head?, first.index ≠ c.snapshotIndex + 1 then none else some above
  else if c.termAt prevLogIndex = some prevLogTerm then some entries else none

/-- The consistency check refuses the message, finds it covered by the snapshot, or merges. -/
lemma check_cases (c : ConsensusCore) (leader : CellIdentity) (prevLogIndex prevLogTerm : ℕ)
    (entries : List RaftLogEntry) (leaderCommit round : ℕ) :
    let result := c.checkAndReconcile leader prevLogIndex prevLogTerm entries leaderCommit round
    (c.passed prevLogIndex prevLogTerm entries = none ∧ ∃ conflictTerm conflictIndex,
      result = (c, [c.appendResponse leader false 0 conflictTerm conflictIndex round])) ∨
    (c.passed prevLogIndex prevLogTerm entries = some [] ∧
      (∀ e ∈ entries, e.index ≤ c.snapshotIndex) ∧
      result = (c, [c.appendResponse leader true c.lastLogIndex none (c.snapshotIndex + 1)
        round])) ∨
    ∃ used, c.passed prevLogIndex prevLogTerm entries = some used ∧
      Usable c prevLogIndex prevLogTerm entries used ∧
      result = c.reconcileAndCommitEntries leader used leaderCommit round := by
  unfold checkAndReconcile passed
  split
  · next hbelow =>
    split
    · next hnone => exact .inr (.inl ⟨by simp [hnone], by simpa using hnone, rfl⟩)
    · next first rest hfilter =>
      split
      · next hindex => exact .inl ⟨by simp [hfilter, hindex], _, _, rfl⟩
      · next hindex =>
        rw [not_not] at hindex
        exact .inr (.inr ⟨_, by simp [hfilter, hindex], .aboveSnapshot hbelow hfilter hindex, rfl⟩)
  · next habove =>
    split
    · next hnone => exact .inl ⟨by simp [hnone], _, _, rfl⟩
    · next localPrevTerm hterm =>
      split
      · next hne => exact .inl ⟨by simp [hterm, hne], _, _, rfl⟩
      · next heq =>
        rw [not_not.mp heq] at hterm
        exact .inr (.inr ⟨_, by simp [hterm], .matching (not_lt.mp habove) hterm, rfl⟩)

/-! ## What a success vouches for -/

/-- The effects hold a success reply that reports the index `m` as matched. -/
def Acknowledges (effects : List ConsensusEffect) (m : ℕ) : Prop :=
  ∃ target term follower conflictTerm conflictIndex round,
    .sendMessage target (.appendEntriesResponse term follower true m conflictTerm conflictIndex
      round) ∈ effects

def Conflicts (c : ConsensusCore) (entries : List RaftLogEntry) : Prop :=
  ∃ e ∈ entries, ∃ x ∈ c.logTail, x.index = e.index ∧ x.term ≠ e.term ∧ c.commitIndex < e.index

lemma not_conflicts_of_holds (h : LogOk c)
    (he : Holds c.firstUncompactedIndex c.commitIndex c.logTail e) (hx : x ∈ c.logTail)
    (hindex : x.index = e.index) (hterm : x.term ≠ e.term) : e.index ≤ c.commitIndex := by
  obtain ⟨y, hy, hor⟩ := he
  have hget := h.numbered.getElem?_of_mem hx
  rw [hindex, hy] at hget
  obtain rfl := Option.some.inj hget
  exact hor.resolve_left hterm

lemma lastLogIndex_mergedTail (h : LogOk c)
    (hnum : Numbered RaftLogEntry.index first used)
    (hintact : ∀ e ∈ used, e.verifyIntegrity = true) (hbase : c.firstUncompactedIndex ≤ first)
    (hgap : first ≤ c.firstUncompactedIndex + c.logTail.length) :
    let last := lastLogIndex { c with logTail := c.mergedTail used }
    (c.Conflicts used ∧ last + 1 = first + used.length) ∨
      (¬ c.Conflicts used ∧ last + 1 = max (c.lastLogIndex + 1) (first + used.length)) := by
  have hlast := h.lastLogIndex_eq
  have hlast' := (h.mergedTail used).1.lastLogIndex_eq
  have hfirst := c.firstUncompactedIndex_eq
  have hmerged : Merged _ c.commitIndex _ _ _ := merged_spliceEntries hnum hintact hbase hgap
  change _ = c.snapshotIndex + (c.mergedTail used).length at hlast'
  dsimp only
  rw [hlast', hlast]
  unfold mergedTail
  generalize spliceEntries c.firstUncompactedIndex c.commitIndex c.logTail used = s at hmerged
  cases hmerged with
  | held hheld =>
    refine .inr ⟨?_, ?_⟩
    · rintro ⟨e, he, x, hx, hindex, hterm, hlt⟩
      have hle := not_conflicts_of_holds h (hheld e he) hx hindex hterm
      omega
    · rcases used.eq_nil_or_concat with rfl | ⟨front, e, rfl⟩
      · simp only [length_nil]
        omega
      · obtain ⟨x, hx, -⟩ := hheld e (by simp)
        have hlt := (List.getElem?_eq_some_iff.mp hx).1
        have hindex := (numbered_append.mp (concat_eq_append ▸ hnum)).2
        simp only [numbered_cons] at hindex
        simp only [length_concat]
        omega
  | @extended skipped rest e heq hheld hend =>
    subst heq
    have hrest := (numbered_append.mp hnum).2
    have hindex := (numbered_cons.mp hrest).1
    refine .inr ⟨?_, ?_⟩
    · rintro ⟨y, hy, x, hx, hxy, hterm, hlt⟩
      rcases mem_append.mp hy with hy | hy
      · have hle := not_conflicts_of_holds h (hheld y hy) hx hxy hterm
        omega
      · have hbounds := hrest.bounds hy
        have hbounds' := h.numbered.bounds hx
        omega
    · simp only [length_append, length_cons]
      omega
  | @replaced skipped rest e x heq hheld hle hget hterm hlt =>
    subst heq
    have hindex := (numbered_cons.mp (numbered_append.mp hnum).2).1
    have hpos := (List.getElem?_eq_some_iff.mp hget).1
    refine .inl ⟨⟨e, by simp, x, mem_of_getElem? hget, ?_, hterm, hlt⟩, ?_⟩
    · rw [h.numbered.num_eq hget]
      omega
    · simp only [length_append, length_cons, length_take_of_le hpos.le]
      omega

lemma lastLogIndex_of_acknowledges (h : Acknowledges (c.reconcileAndCommitEntries leader used
      leaderCommit round).2 m) : m = lastLogIndex { c with logTail := c.mergedTail used } := by
  obtain ⟨_, _, _, _, _, _, h⟩ := h
  obtain ⟨index, -, -, hfst⟩ := c.reconcile_fst leader used leaderCommit round
  rcases reconcile_effects h with ⟨_, heq⟩ | ⟨_, heq⟩ | ⟨_, _, heq⟩ | heq | heq <;> cases heq
  rw [hfst]
  rfl

lemma conflicts_used_iff (h : LogOk c) (hused : Usable c prevLogIndex prevLogTerm entries used) :
    c.Conflicts used ↔ c.Conflicts entries := by
  cases hused with
  | matching => rfl
  | aboveSnapshot hbelow hfilter =>
    rw [← hfilter]
    refine ⟨fun ⟨e, he, hx⟩ => ⟨e, mem_of_mem_filter he, hx⟩, ?_⟩
    rintro ⟨e, he, x, hx, hindex, hrest⟩
    have hlt := (h.snapshot_lt_index hx).1
    exact ⟨e, mem_filter.mpr ⟨he, by simpa [← hindex] using hlt⟩, x, hx, hindex, hrest⟩

lemma lastLogIndex_of_usable (h : LogOk c)
    (hused : Usable c prevLogIndex prevLogTerm entries used)
    (hentries : Numbered RaftLogEntry.index (prevLogIndex + 1) entries)
    (hintact : ∀ e ∈ entries, e.verifyIntegrity = true) :
    let last := lastLogIndex { c with logTail := c.mergedTail used }
    (c.Conflicts entries ∧ last = prevLogIndex + entries.length) ∨
      (¬ c.Conflicts entries ∧ last = max c.lastLogIndex (prevLogIndex + entries.length)) := by
  obtain ⟨hsub, first, hnum, hbase, hgap, hend⟩ := hused.numbered h hentries
  have hmerged := lastLogIndex_mergedTail h hnum (fun e he => hintact e (hsub e he)) hbase hgap
  rw [conflicts_used_iff h hused] at hmerged
  dsimp only at hmerged ⊢
  rcases hmerged with ⟨hc, hlast⟩ | ⟨hc, hlast⟩
  · exact .inl ⟨hc, by omega⟩
  · exact .inr ⟨hc, by omega⟩

/-- A success vouches for nothing after the message and the snapshot exactly if the log ends there
or the message replaces the rest of it. -/
theorem acknowledged_within_iff (h : LogOk c)
    (hentries : Numbered RaftLogEntry.index (prevLogIndex + 1) entries)
    (hintact : ∀ e ∈ entries, e.verifyIntegrity = true)
    (hack : Acknowledges (c.step (.receiveMessage sender (.appendEntries term leader prevLogIndex
      prevLogTerm entries leaderCommit round))).2 m) :
    m ≤ max (prevLogIndex + entries.length) c.snapshotIndex ↔
      c.lastLogIndex ≤ max (prevLogIndex + entries.length) c.snapshotIndex ∨
        c.Conflicts entries := by
  by_cases hadmits : c.Admits sender leader term
  · rw [step_of_admits hadmits] at hack
    obtain ⟨target, term', follower, conflictTerm, conflictIndex, round', hsent⟩ := hack
    obtain ⟨hmeta, htail, hcommit⟩ := c.following_log term leader
    have hfollowing := h.congr hmeta htail hcommit
    have hsnapshot : (c.following term leader).snapshotIndex = c.snapshotIndex := by
      rw [snapshotIndex, hmeta, snapshotIndex]
    have hlast : (c.following term leader).lastLogIndex = c.lastLogIndex := by
      rw [hfollowing.lastLogIndex_eq, h.lastLogIndex_eq, htail, hsnapshot]
    have hconflicts : (c.following term leader).Conflicts entries ↔ c.Conflicts entries := by
      rw [Conflicts, htail, hcommit, Conflicts]
    rcases mem_append.mp hsent with hsent | hsent
    · cases observeTerm_harmless hsent
    · rcases (c.following term leader).check_cases leader prevLogIndex prevLogTerm entries
        leaderCommit round with ⟨-, _, _, heq⟩ | ⟨-, hcovered, heq⟩ | ⟨used, -, hused, heq⟩ <;>
        rw [heq] at hsent
      · cases mem_singleton.mp hsent
      · cases mem_singleton.mp hsent
        have hnone : ¬ c.Conflicts entries := by
          rintro ⟨e, he, x, hx, hindex, -⟩
          have hlt := (h.snapshot_lt_index hx).1
          have hle := hcovered e he
          omega
        simp [hlast, hnone]
      · have hend := lastLogIndex_of_usable hfollowing hused hentries hintact
        rw [hconflicts, hlast, ← lastLogIndex_of_acknowledges ⟨_, _, _, _, _, _, hsent⟩] at hend
        rcases hend with ⟨hc, hend⟩ | ⟨hc, hend⟩
        · simp only [hc, or_true, iff_true]
          omega
        · simp only [hc, or_false]
          omega
  · obtain ⟨_, _, _, _, _, _, hsent⟩ := hack
    cases (untouched_of_not_admits hadmits).harmless _ hsent

def oneEntryFollower : ConsensusCore :=
  { genesis 1 1 ClusterConfig.threeCluster.roster .default with
    currentTerm := 1
    logTail := [RaftLogEntry.new 1 1 trustProposal] }

lemma logOk_oneEntryFollower : LogOk oneEntryFollower :=
  ⟨numbered_cons.mpr ⟨rfl, rfl⟩, Nat.zero_le _, Nat.zero_le _⟩

/-- A heartbeat that matches its last entry is acknowledged up to that entry. -/
theorem acknowledged_within_oneEntryFollower : 1 ≤ max (1 + 0) oneEntryFollower.snapshotIndex :=
  (acknowledged_within_iff logOk_oneEntryFollower numbered_nil (forall_mem_nil _)
    (show Acknowledges (oneEntryFollower.step (.receiveMessage 2
      (.appendEntries 1 2 1 1 [] 0 1))).2 1 from ⟨2, 1, 1, none, 0, 1, by decide +kernel⟩)).mpr
    (.inl (by decide))

/-- A heartbeat of a new leader whose log is empty is acknowledged up to the follower's entry. -/
theorem heartbeat_acknowledged_beyond : LogOk oneEntryFollower ∧
    Acknowledges (oneEntryFollower.step (.receiveMessage 2 (.appendEntries 2 2 0 0 [] 0 1))).2 1 ∧
      ¬ 1 ≤ max (0 + ([] : List RaftLogEntry).length) oneEntryFollower.snapshotIndex :=
  ⟨logOk_oneEntryFollower, ⟨2, 2, 1, none, 0, 1, by decide +kernel⟩, by decide⟩

/-! ## Corrupt entries -/

section Splice

variable {base commitIndex : ℕ} {logTail : List RaftLogEntry} {e : RaftLogEntry}

/-- Merging the entry does nothing: it is compacted, held, or after a gap. -/
def Skips (base commitIndex : ℕ) (logTail : List RaftLogEntry) (e : RaftLogEntry) : Prop :=
  e.index < base ∨ Holds base commitIndex logTail e ∨ base + logTail.length < e.index

lemma spliceEntry_cases (base commitIndex : ℕ) (logTail : List RaftLogEntry) (e : RaftLogEntry) :
    (Skips base commitIndex logTail e ∧
        spliceEntry base commitIndex logTail e = ⟨logTail, [], [], true⟩) ∨
      (¬ Skips base commitIndex logTail e ∧
        ((spliceEntry base commitIndex logTail e).truncations ≠ [] ∨
          spliceEntry base commitIndex logTail e = ⟨logTail ++ [e], [], [e], true⟩)) := by
  unfold Skips Holds spliceEntry
  dsimp only
  split
  · next hlt => exact .inl ⟨.inl hlt, rfl⟩
  · next hge =>
    split
    · next x hx =>
      have hpos := (List.getElem?_eq_some_iff.mp hx).1
      split
      · next hconflict =>
        refine .inr ⟨?_, .inl (by simp)⟩
        rintro (h | ⟨y, hy, h⟩ | h)
        · exact hge h
        · obtain rfl := Option.some.inj (hx.symm.trans hy)
          omega
        · omega
      · next hheld => exact .inl ⟨.inr (.inl ⟨x, hx, by omega⟩), rfl⟩
    · next hnone =>
      have hpos := List.getElem?_eq_none_iff.mp hnone
      split
      · next heq =>
        refine .inr ⟨?_, .inr rfl⟩
        rintro (h | ⟨y, hy, -⟩ | h)
        · exact hge h
        · cases hnone.symm.trans hy
        · omega
      · exact .inl ⟨.inr (.inr (by omega)), rfl⟩

lemma length_le_spliceEntries
    (h : (spliceEntries base commitIndex logTail entries).truncations = []) :
    logTail.length ≤ (spliceEntries base commitIndex logTail entries).logTail.length := by
  induction entries generalizing logTail with
  | nil => exact le_rfl
  | cons e rest ih =>
    unfold spliceEntries at h ⊢
    split at h
    · next hintact =>
      rw [if_pos hintact]
      obtain ⟨hfirst, hrest⟩ := append_eq_nil_iff.mp h
      refine le_trans ?_ (ih hrest)
      rcases spliceEntry_cases base commitIndex logTail e with ⟨-, heq⟩ | ⟨-, htruncates | heq⟩
      · rw [heq]
      · exact absurd hfirst htruncates
      · simp [heq]
    · next hcorrupt => rw [if_neg hcorrupt]

/-- A merge leaves the log alone exactly if it skips every entry before the first corrupt one. -/
lemma spliceEntries_unchanged_iff :
    (spliceEntries base commitIndex logTail entries).truncations = [] ∧
        (spliceEntries base commitIndex logTail entries).logTail = logTail ↔
      ∀ e ∈ entries.takeWhile RaftLogEntry.verifyIntegrity, Skips base commitIndex logTail e := by
  induction entries with
  | nil => simp [spliceEntries]
  | cons e rest ih =>
    unfold spliceEntries
    split
    · next hintact =>
      rw [takeWhile_cons_of_pos hintact, forall_mem_cons]
      rcases spliceEntry_cases base commitIndex logTail e with
        ⟨hskips, heq⟩ | ⟨hskips, htruncates | heq⟩
      · simp only [heq, nil_append, ih, hskips, true_and]
      · simp [htruncates, hskips]
      · simp only [heq, nil_append, hskips, false_and, iff_false, not_and]
        intro hnone hsame
        have hle := length_le_spliceEntries hnone
        rw [hsame] at hle
        simp at hle
    · next hcorrupt => simp [takeWhile_cons_of_neg hcorrupt]

lemma spliceEntries_intact (base commitIndex : ℕ) (logTail entries : List RaftLogEntry) :
    (spliceEntries base commitIndex logTail entries).intact =
      entries.all RaftLogEntry.verifyIntegrity := by
  induction entries generalizing logTail with
  | nil => rfl
  | cons e rest ih =>
    unfold spliceEntries
    split
    · next hintact => simp [hintact, ih]
    · next hcorrupt => simp [hcorrupt]

end Splice

/-- Merging the entries stops at a corrupt one and skips those before it. -/
def Spares (c : ConsensusCore) (used : List RaftLogEntry) : Prop :=
  (∃ e ∈ used, e.verifyIntegrity = false) ∧
    ∀ e ∈ used.takeWhile RaftLogEntry.verifyIntegrity,
      Skips c.firstUncompactedIndex c.commitIndex c.logTail e

lemma untouched_reconcile_iff :
    c.Untouched (c.reconcileAndCommitEntries leader used leaderCommit round) ↔ c.Spares used := by
  have hall := spliceEntries_intact c.firstUncompactedIndex c.commitIndex c.logTail used
  have htruncations := truncations_spliceEntries c.firstUncompactedIndex c.commitIndex c.logTail
    used
  rw [Spares, ← spliceEntries_unchanged_iff]
  unfold reconcileAndCommitEntries
  generalize spliceEntries c.firstUncompactedIndex c.commitIndex c.logTail used = s at *
  dsimp only
  split
  · next hintact =>
    rw [hintact, eq_comm, all_eq_true] at hall
    refine iff_of_false (fun h => ?_) fun h => ?_
    · cases h.harmless _ (mem_append_right _ (mem_singleton_self _))
    · obtain ⟨⟨e, he, hcorrupt⟩, -⟩ := h
      simp [hall e he] at hcorrupt
  · next hcorrupt =>
    rw [Bool.not_eq_true] at hcorrupt
    rw [hcorrupt, eq_comm, all_eq_false] at hall
    refine ⟨fun h => ⟨by simpa using hall, ?_, h.logTail⟩, fun h => ⟨rfl, h.2.2, rfl, ?_⟩⟩
    · refine eq_nil_iff_forall_not_mem.mpr fun e he => ?_
      obtain ⟨index, rfl⟩ := htruncations e he
      cases h.harmless _ (mem_append_left _ he)
    · simp [h.2.1, appendResponse, ConsensusEffect.isHarmless]

lemma untouched_check_iff (c : ConsensusCore) (leader : CellIdentity)
    (prevLogIndex prevLogTerm : ℕ) (entries : List RaftLogEntry) (leaderCommit round : ℕ) :
    c.Untouched (c.checkAndReconcile leader prevLogIndex prevLogTerm entries leaderCommit round) ↔
      ∀ used ∈ c.passed prevLogIndex prevLogTerm entries, c.Spares used := by
  rcases c.check_cases leader prevLogIndex prevLogTerm entries leaderCommit round with
    ⟨hnone, _, _, heq⟩ | ⟨hnil, -, heq⟩ | ⟨used, hsome, -, heq⟩ <;> rw [heq]
  · refine iff_of_true ⟨rfl, rfl, rfl, ?_⟩ (by simp [hnone])
    simp [appendResponse, ConsensusEffect.isHarmless]
  · refine iff_of_false (fun h => ?_) (by simp [hnil, Spares])
    cases h.harmless _ (mem_singleton_self _)
  · simp [hsome, untouched_reconcile_iff]

/-- A step rejects an append message as a whole exactly if the message is turned away before its
entries are merged or the merge spares the log. -/
theorem rejects_whole_iff :
    c.Untouched (c.step (.receiveMessage sender (.appendEntries term leader prevLogIndex
        prevLogTerm entries leaderCommit round))) ↔
      (c.Admits sender leader term → ∀ used ∈ c.passed prevLogIndex prevLogTerm entries,
        c.Spares used) := by
  by_cases hadmits : c.Admits sender leader term
  · obtain ⟨hmeta, htail, hcommit⟩ := c.following_log term leader
    have hpassed : (c.following term leader).passed prevLogIndex prevLogTerm entries =
        c.passed prevLogIndex prevLogTerm entries := by
      unfold following observeTerm
      split <;> rfl
    have hspares {used : List RaftLogEntry} : (c.following term leader).Spares used ↔
        c.Spares used := by
      rw [Spares, firstUncompactedIndex, hmeta, htail, hcommit]
      rfl
    rw [step_of_admits hadmits]
    simp only [hadmits, forall_true_left, ← hpassed, ← hspares]
    rw [← untouched_check_iff _ leader _ _ _ leaderCommit round]
    constructor
    · intro h
      exact ⟨h.1.trans hmeta.symm, h.2.trans htail.symm, h.3.trans hcommit.symm,
        fun e he => h.harmless e (mem_append_right _ he)⟩
    · intro h
      refine ⟨h.1.trans hmeta, h.2.trans htail, h.3.trans hcommit, fun e he => ?_⟩
      exact (mem_append.mp he).elim observeTerm_harmless (h.harmless e)
  · exact iff_of_true (untouched_of_not_admits hadmits) fun h => absurd h hadmits

/-- The intact entry before a corrupt one stays in the log although nothing is stored. -/
theorem merged_before_corrupt : ∃ e : RaftLogEntry, e.verifyIntegrity = false ∧
    let r := oneEntryFollower.step (.receiveMessage 2 (.appendEntries 1 2 1 1
      [RaftLogEntry.new 2 1 trustProposal, e] 0 1))
    r.1.logTail ≠ oneEntryFollower.logTail ∧ ∀ entries, .appendLogEntries entries ∉ r.2 := by
  obtain ⟨d, hd⟩ := exists_ne (RaftLogEntry.expectedSha256 3 1 trustProposal)
  have hcorrupt : RaftLogEntry.verifyIntegrity ⟨3, 1, trustProposal, d⟩ = false := by
    simp [RaftLogEntry.verifyIntegrity, hd]
  have hsplice : spliceEntries (oneEntryFollower.following 1 2).firstUncompactedIndex
      (oneEntryFollower.following 1 2).commitIndex (oneEntryFollower.following 1 2).logTail
      [RaftLogEntry.new 2 1 trustProposal, ⟨3, 1, trustProposal, d⟩] =
        ⟨oneEntryFollower.logTail ++ [RaftLogEntry.new 2 1 trustProposal], [],
          [RaftLogEntry.new 2 1 trustProposal], false⟩ := by
    change spliceEntries 1 0 oneEntryFollower.logTail _ = _
    simp [spliceEntries, spliceEntry, oneEntryFollower, RaftLogEntry.new,
      RaftLogEntry.verifyIntegrity, hd]
  have hterm : (oneEntryFollower.following 1 2).termAt 1 = some 1 := rfl
  have hbelow : ¬ 1 < (oneEntryFollower.following 1 2).snapshotIndex := by decide
  refine ⟨⟨3, 1, trustProposal, d⟩, hcorrupt, ?_⟩
  rw [step_of_admits (show oneEntryFollower.Admits 2 2 1 from
    ⟨by decide, by decide, rfl, le_rfl⟩)]
  simp only [checkAndReconcile, hbelow, hterm, if_false, ne_eq, not_true_eq_false,
    reconcileAndCommitEntries, hsplice, Bool.false_eq_true]
  exact ⟨by simp, by simp [observeTerm, oneEntryFollower, appendResponse]⟩

end ConsensusCore

end Nlos.Consensus
