import Nlos.Consensus.Command
import Nlos.Lib.Table

/-!
# The failure detector of a cell

Heartbeats and sweeps at the ticks of a caller's clock turn the silence of a subject into a
suspicion and then into a judgment. An epoch advance voids the suspicions, and opens a fresh
incarnation of every subject that was judged dead.
-/

namespace Nlos.Cell

open Lib Consensus List
open Std (ExtTreeMap)

inductive MonitoredSubject where
  | fiber (id : Word 16)
  | process (id : Word 16)
deriving DecidableEq

/-- Subjects are ordered by their kind, then by their id. -/
def MonitoredSubject.rank : MonitoredSubject → ℕ
  | fiber id => id.val
  | process id => 256 ^ 16 + id.val

instance : Std.LawfulEqCmp (compareOn MonitoredSubject.rank) where
  eq_of_compare {a b} h := by
    have hrank : a.rank = b.rank := Nat.compare_eq_eq.mp h
    cases a <;> cases b <;> simp [MonitoredSubject.rank, Fin.ext_iff] at hrank ⊢ <;> omega

inductive Liveness where
  | alive
  | suspect
  | dead
deriving DecidableEq

structure FailureDetectorConfig where
  (suspectAfter deadAfter : ℕ)
  pos : 0 < suspectAfter
  ordered : suspectAfter ≤ deadAfter

structure DeadJudgment where
  subject : MonitoredSubject
  epoch : CellEpoch
  (deadAt incarnation : ℕ)

structure HeartbeatOutcome where
  clearedSuspicion : Bool

structure SweepReport where
  epoch : CellEpoch
  newlySuspected : List (MonitoredSubject × ℕ)
  newlyDead : List DeadJudgment

structure EpochAdvanceReport where
  (previousEpoch newEpoch : CellEpoch)
  suspicionsVoided : List (MonitoredSubject × ℕ)
  reTrackedAfterDeath : List MonitoredSubject

inductive FailureDetectorError where
  | clockRegression (presented lastSeen : ℕ)
  | subjectAlreadyDead (subject : MonitoredSubject) (epoch : CellEpoch) (incarnation : ℕ)
  | epochNotAdvanced (presented current : CellEpoch)
  | identityMismatch (presented current : CellIdentity)

/-- What the detector reads of a fence. -/
structure CellFence where
  identity : CellIdentity
  epoch : CellEpoch

structure SubjectRecord where
  epoch : CellEpoch
  (incarnation baselineTick : ℕ)
  (lastHeartbeat suspectedAt deadAt : Option ℕ)

def SubjectRecord.liveness (record : SubjectRecord) : Liveness :=
  if record.deadAt.isSome then .dead else if record.suspectedAt.isSome then .suspect else .alive

def SubjectRecord.silenceSince (record : SubjectRecord) : ℕ :=
  record.lastHeartbeat.getD record.baselineTick

/-- The verdict that a sweep newly reaches. -/
def SubjectRecord.escalation (config : FailureDetectorConfig) (now : ℕ) (record : SubjectRecord) :
    Option Liveness :=
  if record.deadAt.isSome then none
  else if config.deadAfter ≤ now - record.silenceSince then some .dead
  else if config.suspectAfter ≤ now - record.silenceSince ∧ record.suspectedAt.isNone then
    some .suspect
  else none

def SubjectRecord.escalate (config : FailureDetectorConfig) (now : ℕ) (record : SubjectRecord) :
    SubjectRecord :=
  match record.escalation config now with
  | some .dead => { record with deadAt := some now }
  | some .suspect => { record with suspectedAt := some now }
  | _ => record

def SubjectRecord.reopen (epoch : CellEpoch) (boundaryTick : ℕ) (record : SubjectRecord) :
    SubjectRecord :=
  ⟨epoch, if record.deadAt.isSome then min (record.incarnation + 1) (2 ^ 64 - 1)
    else record.incarnation, boundaryTick, none, none, none⟩

/-- The subjects are kept in the order in which the reports list them. -/
structure FailureDetector where
  identity : CellIdentity
  epoch : CellEpoch
  config : FailureDetectorConfig
  lastTick : ℕ
  subjects : ExtTreeMap MonitoredSubject SubjectRecord (compareOn MonitoredSubject.rank)
  deadJudgments : List DeadJudgment

namespace FailureDetector

def new (fence : CellFence) (config : FailureDetectorConfig) : FailureDetector :=
  ⟨fence.identity, fence.epoch, config, 0, ∅, []⟩

/-- A rejected heartbeat of a dead subject has moved the clock all the same. -/
def recordHeartbeat (s : FailureDetector) (subject : MonitoredSubject) (now : ℕ) :
    FailureDetector × Except FailureDetectorError HeartbeatOutcome :=
  if now < s.lastTick then (s, .error (.clockRegression now s.lastTick))
  else
    let s := { s with lastTick := now }
    match s.subjects[subject]? with
    | some record =>
      if record.deadAt.isSome then
        (s, .error (.subjectAlreadyDead subject record.epoch record.incarnation))
      else
        let heard := { record with
          epoch := s.epoch, baselineTick := now, lastHeartbeat := some now, suspectedAt := none }
        ({ s with subjects := s.subjects.insert subject heard }, .ok ⟨record.suspectedAt.isSome⟩)
    | none =>
      ({ s with subjects := s.subjects.insert subject ⟨s.epoch, 1, now, some now, none, none⟩ },
        .ok ⟨false⟩)

def newlyDead (s : FailureDetector) (now : ℕ) : List DeadJudgment :=
  (s.subjects.toList.filter (·.2.escalation s.config now = some .dead)).map fun row =>
    ⟨row.1, row.2.epoch, now, row.2.incarnation⟩

def escalate (s : FailureDetector) (now : ℕ) : FailureDetector :=
  { s with
    lastTick := now
    subjects := s.subjects.map fun _ record => record.escalate s.config now
    deadJudgments := s.deadJudgments ++ s.newlyDead now }

def sweep (s : FailureDetector) (now : ℕ) :
    FailureDetector × Except FailureDetectorError SweepReport :=
  if now < s.lastTick then (s, .error (.clockRegression now s.lastTick))
  else
    let suspected := s.subjects.toList.filter (·.2.escalation s.config now = some .suspect)
    (s.escalate now, .ok ⟨s.epoch, suspected.map fun row => (row.1, now), s.newlyDead now⟩)

def reopen (s : FailureDetector) (epoch : CellEpoch) : FailureDetector :=
  { s with epoch, subjects := s.subjects.map fun _ record => record.reopen epoch s.lastTick }

def onEpochAdvanced (s : FailureDetector) (newFence : CellFence) :
    FailureDetector × Except FailureDetectorError EpochAdvanceReport :=
  if newFence.identity ≠ s.identity then
    (s, .error (.identityMismatch newFence.identity s.identity))
  else if newFence.epoch ≤ s.epoch then
    (s, .error (.epochNotAdvanced newFence.epoch s.epoch))
  else
    (s.reopen newFence.epoch, .ok ⟨s.epoch, newFence.epoch,
      s.subjects.toList.filterMap fun row => row.2.suspectedAt.map (row.1, ·),
      (s.subjects.toList.filter (·.2.deadAt.isSome)).map Prod.fst⟩)

/-- The incarnations of a subject that were judged dead, oldest first. -/
def judged (s : FailureDetector) (subject : MonitoredSubject) : List ℕ :=
  (s.deadJudgments.filter (·.subject = subject)).map (·.incarnation)

end FailureDetector

/-- From where on silence is measured in an epoch: a heartbeat of a subject, or for every subject
the opening of the epoch. -/
structure Mark where
  subject : Option MonitoredSubject
  epoch : CellEpoch
  tick : ℕ

def Mark.Concerns (m : Mark) (subject : MonitoredSubject) : Prop :=
  m.subject = none ∨ m.subject = some subject

/-- A detector with the heartbeats it has accepted and the epochs it has opened. -/
structure World where
  detector : FailureDetector
  marks : List Mark

inductive World.Evolves (w : World) : World → Prop
  | recordHeartbeat (subject now) : Evolves w ⟨(w.detector.recordHeartbeat subject now).1,
      w.marks ++ if (w.detector.recordHeartbeat subject now).2.isOk then
        [⟨some subject, w.detector.epoch, now⟩] else []⟩
  | sweep (now) : Evolves w ⟨(w.detector.sweep now).1, w.marks⟩
  | onEpochAdvanced (newFence) : Evolves w ⟨(w.detector.onEpochAdvanced newFence).1,
      w.marks ++ if (w.detector.onEpochAdvanced newFence).2.isOk then
        [⟨none, newFence.epoch, w.detector.lastTick⟩] else []⟩

variable {s t : FailureDetector} {record : SubjectRecord} {x : MonitoredSubject} {now : ℕ}
  {epoch : CellEpoch} {marks : List Mark} {w : World}

/-- Judgments number the incarnations of a subject from one, and a subject judged in this epoch
is dead. No silence is measured from before a mark. -/
structure Sound (s : FailureDetector) (marks : List Mark) : Prop where
  rows : ∀ x record, s.subjects[x]? = some record → record.epoch = s.epoch ∧
    0 < record.incarnation ∧ record.incarnation ≤ s.epoch.1.val ∧
    s.judged x = range' 1 (record.incarnation - if record.deadAt.isSome then 0 else 1)
  judgments : ∀ j ∈ s.deadJudgments, j.epoch ≤ s.epoch ∧ ∃ record,
    s.subjects[j.subject]? = some record ∧ (j.epoch = s.epoch → record.deadAt.isSome)
  past : ∀ m ∈ marks, m.epoch ≤ s.epoch ∧ m.tick ≤ s.lastTick
  silence : ∀ m ∈ marks, m.epoch = s.epoch → ∀ x record, s.subjects[x]? = some record →
    m.Concerns x → m.tick ≤ record.silenceSince
  judged : ∀ m ∈ marks, ∀ j ∈ s.deadJudgments, m.Concerns j.subject → j.epoch = m.epoch →
    m.tick + s.config.deadAfter ≤ j.deadAt

namespace Sound

lemma clock (h : Sound s marks) (hnow : s.lastTick ≤ now) :
    Sound { s with lastTick := now } marks :=
  ⟨h.rows, h.judgments, fun m hm => (h.past m hm).imp_right (·.trans hnow), h.silence, h.judged⟩

/-- A heartbeat is accepted when no judgment of this epoch is about its subject. -/
lemma heard (h : Sound s marks) (hnow : s.lastTick ≤ now)
    (hrow : record.epoch = s.epoch ∧ 0 < record.incarnation ∧ record.incarnation ≤ s.epoch.1.val ∧
      s.judged x = range' 1 (record.incarnation - 1))
    (hheard : record.silenceSince = now) (halive : record.deadAt = none)
    (hearlier : ∀ j ∈ s.deadJudgments, j.subject = x → j.epoch ≠ s.epoch) :
    Sound { s with lastTick := now, subjects := s.subjects.insert x record }
      (marks ++ [⟨some x, s.epoch, now⟩]) where
  rows := by
    intro y other hother
    rw [Table.getElem?_insert_eq] at hother
    split at hother
    · obtain rfl := Option.some.inj hother
      subst y
      simpa [halive] using! hrow
    · exact h.rows y other hother
  judgments := by
    intro j hj
    obtain ⟨hle, other, hother, hdead⟩ := h.judgments j hj
    refine ⟨hle, ?_⟩
    rw [Table.getElem?_insert_eq]
    split
    · next heq => exact ⟨record, rfl, fun hepoch => absurd hepoch (hearlier j hj heq.symm)⟩
    · exact ⟨other, hother, hdead⟩
  past := forall_mem_append.mpr
    ⟨(h.clock hnow).past, forall_mem_singleton.mpr ⟨le_rfl, le_rfl⟩⟩
  silence := by
    intro m hm hepoch y other hother hy
    rw [Table.getElem?_insert_eq] at hother
    split at hother
    · obtain rfl := Option.some.inj hother
      rw [hheard]
      rcases mem_append.mp hm with hm | hm
      · exact (h.past m hm).2.trans hnow
      · rw [mem_singleton.mp hm]
    · rcases mem_append.mp hm with hm | hm
      · exact h.silence m hm hepoch y other hother hy
      · simp_all [Mark.Concerns]
  judged := by
    refine forall_mem_append.mpr ⟨h.judged, forall_mem_singleton.mpr fun j hj hx hepoch => ?_⟩
    refine absurd hepoch (hearlier j hj ?_)
    simpa [Mark.Concerns, eq_comm] using hx

end Sound

lemma sound_recordHeartbeat {result} (h : Sound s marks)
    (hcall : s.recordHeartbeat x now = (t, result)) :
    Sound t (marks ++ if result.isOk then [⟨some x, s.epoch, now⟩] else []) := by
  unfold FailureDetector.recordHeartbeat at hcall
  split at hcall
  · obtain ⟨rfl, rfl⟩ := Prod.mk.inj hcall
    simpa [Except.isOk, Except.toBool] using h
  next hnow =>
  rw [not_lt] at hnow
  dsimp only at hcall
  split at hcall
  · next record hrecord =>
    split at hcall
    · obtain ⟨rfl, rfl⟩ := Prod.mk.inj hcall
      simpa [Except.isOk, Except.toBool] using h.clock hnow
    · next halive =>
      obtain ⟨rfl, rfl⟩ := Prod.mk.inj hcall
      obtain ⟨-, hpos, hle, hjudged⟩ := h.rows x record hrecord
      refine h.heard hnow ⟨rfl, hpos, hle, by simpa [halive] using hjudged⟩ rfl
        (by simpa using halive) fun j hj hx hepoch => ?_
      obtain ⟨-, other, hother, hdead⟩ := h.judgments j hj
      obtain rfl := Option.some.inj (hrecord.symm.trans (hx ▸ hother))
      exact halive (hdead hepoch)
  · next hnone =>
    obtain ⟨rfl, rfl⟩ := Prod.mk.inj hcall
    have hearlier : ∀ j ∈ s.deadJudgments, j.subject ≠ x := by
      rintro j hj rfl
      obtain ⟨-, record, hrecord, -⟩ := h.judgments j hj
      simp [hnone] at hrecord
    refine h.heard hnow ⟨rfl, one_pos, ?_, ?_⟩ rfl rfl fun j hj hx => absurd hx (hearlier j hj)
    · exact Nat.one_le_iff_ne_zero.mpr fun hzero => s.epoch.2 (Fin.ext hzero)
    · simpa [FailureDetector.judged] using hearlier

lemma escalate_cases (config : FailureDetectorConfig) (now : ℕ) (record : SubjectRecord) :
    (record.escalation config now = some .dead ∧ record.deadAt = none ∧
      record.silenceSince + config.deadAfter ≤ now ∧
      record.escalate config now = { record with deadAt := some now }) ∨
    (record.escalation config now ≠ some .dead ∧ ∃ suspectedAt,
      record.escalate config now = { record with suspectedAt }) := by
  have hpos := config.pos
  have hordered := config.ordered
  unfold SubjectRecord.escalate
  cases hverdict : record.escalation config now with
  | none => exact .inr ⟨by simp, _, rfl⟩
  | some verdict =>
    cases verdict with
    | alive => exact .inr ⟨by simp, _, rfl⟩
    | suspect => exact .inr ⟨by simp, _, rfl⟩
    | dead =>
      refine .inl ⟨rfl, ?_⟩
      unfold SubjectRecord.escalation at hverdict
      split_ifs at hverdict with halive hsilent
      · exact ⟨by simpa using halive, by omega, rfl⟩
      · simp at hverdict

lemma mem_newlyDead {j} : j ∈ s.newlyDead now ↔ ∃ x record, s.subjects[x]? = some record ∧
    record.escalation s.config now = some .dead ∧
      ⟨x, record.epoch, now, record.incarnation⟩ = j := by
  simp [FailureDetector.newlyDead, ExtTreeMap.mem_toList_iff_getElem?_eq_some, and_assoc]

lemma filter_toList (h : s.subjects[x]? = some record) :
    s.subjects.toList.filter (·.1 = x) = [(x, record)] := by
  refine perm_singleton.mp ((perm_ext_iff_of_nodup ?_ (nodup_singleton _)).mpr ?_)
  · exact (Table.nodup_toList _).filter _
  · rintro ⟨y, other⟩
    simp only [mem_filter, ExtTreeMap.mem_toList_iff_getElem?_eq_some, decide_eq_true_eq,
      mem_singleton, Prod.mk.injEq]
    constructor
    · rintro ⟨hother, rfl⟩
      exact ⟨rfl, Option.some.inj (hother.symm.trans h)⟩
    · rintro ⟨rfl, rfl⟩
      exact ⟨h, rfl⟩

/-- A sweep judges the incarnation of a subject at most once. -/
lemma judged_escalate (h : s.subjects[x]? = some record) :
    (s.escalate now).judged x = s.judged x ++
      if record.escalation s.config now = some .dead then [record.incarnation] else [] := by
  simp only [FailureDetector.judged, FailureDetector.escalate, FailureDetector.newlyDead,
    filter_append, filter_map, map_append, Function.comp_def]
  rw [filter_comm, filter_toList h, filter_singleton]
  split_ifs with hdead
  · simp [hdead]
  · simp [hdead]

lemma sound_escalate (h : Sound s marks) (hnow : s.lastTick ≤ now) :
    Sound (s.escalate now) marks where
  rows := by
    intro x record' hrecord'
    rw [FailureDetector.escalate, ExtTreeMap.getElem?_map] at hrecord'
    obtain ⟨record, hrecord, rfl⟩ := Option.map_eq_some_iff.mp hrecord'
    obtain ⟨hepoch, hpos, hle, hold⟩ := h.rows x record hrecord
    rw [judged_escalate hrecord, hold]
    rcases escalate_cases s.config now record with ⟨hdead, halive, -, heq⟩ | ⟨hdead, _, heq⟩
    · obtain ⟨n, hn⟩ := Nat.exists_eq_add_of_lt hpos
      rw [heq, if_pos hdead, halive]
      exact ⟨hepoch, hpos, hle, by simp [hn, range'_concat, add_comm]⟩
    · rw [heq, if_neg hdead, append_nil]
      exact ⟨hepoch, hpos, hle, rfl⟩
  judgments := by
    refine forall_mem_append.mpr ⟨fun j hj => ?_, fun j hj => ?_⟩
    · obtain ⟨hle, record, hrecord, hdead⟩ := h.judgments j hj
      refine ⟨hle, _, by simp [FailureDetector.escalate, hrecord]; rfl, fun hepoch => ?_⟩
      rcases escalate_cases s.config now record with ⟨-, -, -, heq⟩ | ⟨-, _, heq⟩
      · simp [heq]
      · simpa [heq] using hdead hepoch
    · obtain ⟨x, record, hrecord, hverdict, rfl⟩ := mem_newlyDead.mp hj
      refine ⟨(h.rows x record hrecord).1.le, _, by simp [FailureDetector.escalate, hrecord]; rfl,
        fun _ => ?_⟩
      simp [SubjectRecord.escalate, hverdict]
  past := (h.clock hnow).past
  silence := by
    intro m hm hepoch x record' hrecord' hx
    rw [FailureDetector.escalate, ExtTreeMap.getElem?_map] at hrecord'
    obtain ⟨record, hrecord, rfl⟩ := Option.map_eq_some_iff.mp hrecord'
    have hle := h.silence m hm hepoch x record hrecord hx
    rcases escalate_cases s.config now record with ⟨-, -, -, heq⟩ | ⟨-, _, heq⟩
    · simpa [heq] using! hle
    · simpa [heq] using! hle
  judged := by
    refine fun m hm => forall_mem_append.mpr ⟨h.judged m hm, fun j hj hx hepoch => ?_⟩
    obtain ⟨x, record, hrecord, hverdict, rfl⟩ := mem_newlyDead.mp hj
    have hle := h.silence m hm (hepoch ▸ (h.rows x record hrecord).1) x record hrecord hx
    rcases escalate_cases s.config now record with ⟨-, -, hsilent, -⟩ | ⟨hdead, -⟩
    · exact (Nat.add_le_add_right hle _).trans hsilent
    · exact absurd hverdict hdead

lemma sound_reopen (h : Sound s marks) (hlt : s.epoch < epoch) :
    Sound (s.reopen epoch) (marks ++ [⟨none, epoch, s.lastTick⟩]) where
  rows := by
    intro x record' hrecord'
    rw [FailureDetector.reopen, ExtTreeMap.getElem?_map] at hrecord'
    obtain ⟨record, hrecord, rfl⟩ := Option.map_eq_some_iff.mp hrecord'
    obtain ⟨-, hpos, hle, hold⟩ := h.rows x record hrecord
    -- Incarnations do not outrun the epochs, so the counter never saturates.
    have hlt : s.epoch.1.val < epoch.1.val := hlt
    have hmax : epoch.1.val < 2 ^ 64 := epoch.1.isLt
    refine ⟨rfl, ?_, ?_, hold.trans ?_⟩
    all_goals dsimp only [SubjectRecord.reopen, FailureDetector.reopen]
    · split_ifs <;> omega
    · split_ifs <;> omega
    · congr 1
      simp only [Option.isSome_none, Bool.false_eq_true, if_false]
      split_ifs <;> omega
  judgments := by
    intro j hj
    obtain ⟨hle, record, hrecord, -⟩ := h.judgments j hj
    exact ⟨hle.trans hlt.le, _, by simp [FailureDetector.reopen, hrecord]; rfl,
      fun hepoch => absurd hepoch (hle.trans_lt hlt).ne⟩
  past := by
    refine forall_mem_append.mpr ⟨fun m hm => ?_, forall_mem_singleton.mpr ⟨le_rfl, le_rfl⟩⟩
    exact (h.past m hm).imp_left (·.trans hlt.le)
  silence := by
    refine forall_mem_append.mpr ⟨fun m hm hepoch => ?_, forall_mem_singleton.mpr ?_⟩
    · exact absurd hepoch ((h.past m hm).1.trans_lt hlt).ne
    · intro _ x record' hrecord' _
      rw [FailureDetector.reopen, ExtTreeMap.getElem?_map] at hrecord'
      obtain ⟨record, -, rfl⟩ := Option.map_eq_some_iff.mp hrecord'
      exact le_rfl
  judged := by
    refine forall_mem_append.mpr ⟨h.judged, forall_mem_singleton.mpr fun j hj _ hepoch => ?_⟩
    exact absurd hepoch ((h.judgments j hj).1.trans_lt hlt).ne

lemma sound_onEpochAdvanced {newFence result} (h : Sound s marks)
    (hcall : s.onEpochAdvanced newFence = (t, result)) :
    Sound t (marks ++ if result.isOk then [⟨none, newFence.epoch, s.lastTick⟩] else []) := by
  unfold FailureDetector.onEpochAdvanced at hcall
  split_ifs at hcall with hidentity hepoch
  · obtain ⟨rfl, rfl⟩ := Prod.mk.inj hcall
    simpa [Except.isOk, Except.toBool] using h
  · obtain ⟨rfl, rfl⟩ := Prod.mk.inj hcall
    simpa [Except.isOk, Except.toBool] using h
  · obtain ⟨rfl, rfl⟩ := Prod.mk.inj hcall
    exact sound_reopen h (not_le.mp hepoch)

/-- The detector agrees with the marks of every run. -/
lemma sound_of_run {fence config}
    (hrun : Relation.ReflTransGen World.Evolves ⟨.new fence config, []⟩ w) :
    Sound w.detector w.marks := by
  induction hrun with
  | refl => exact ⟨by simp [FailureDetector.new], nofun, nofun, nofun, nofun⟩
  | tail _ hstep ih =>
    cases hstep with
    | recordHeartbeat => exact sound_recordHeartbeat ih rfl
    | sweep =>
      unfold FailureDetector.sweep
      split
      · exact ih
      · next hnow => exact sound_escalate ih (not_lt.mp hnow)
    | onEpochAdvanced => exact sound_onEpochAdvanced ih rfl

lemma mem_suspicionsVoided {newFence report} (h : s.onEpochAdvanced newFence = (t, .ok report)) :
    (∃ tick, (x, tick) ∈ report.suspicionsVoided) ↔
      ∃ record, s.subjects[x]? = some record ∧ record.suspectedAt.isSome := by
  rw [FailureDetector.onEpochAdvanced] at h
  split_ifs at h
  all_goals simp only [Prod.mk.injEq, reduceCtorEq, and_false, Except.ok.injEq] at h
  obtain ⟨-, rfl⟩ := h
  simp only [mem_filterMap, Prod.exists, ExtTreeMap.mem_toList_iff_getElem?_eq_some,
    Option.map_eq_some_iff, Prod.mk.injEq, Option.isSome_iff_exists]
  constructor
  · rintro ⟨_, _, record, hrecord, tick, hsome, rfl, -⟩
    exact ⟨record, hrecord, tick, hsome⟩
  · rintro ⟨record, hrecord, tick, hsome⟩
    exact ⟨tick, x, record, hrecord, tick, hsome, rfl, rfl⟩

lemma suspectedAt_iff (h : record.liveness ≠ .dead) :
    record.suspectedAt.isSome ↔ record.liveness = .suspect := by
  unfold SubjectRecord.liveness at h ⊢
  split_ifs at h ⊢ <;> simp_all

/-- In every history a subject has one incarnation more than judgments of earlier incarnations, no
incarnation is judged twice, and each judgment follows `deadAfter` ticks of its epoch without a
heartbeat. As long as a subject is not dead it carries a suspicion exactly when it is suspect, and
an epoch advance voids just these. -/
theorem verdicts_exact {fence config}
    (hrun : Relation.ReflTransGen World.Evolves ⟨.new fence config, []⟩ ⟨s, marks⟩) :
    (∀ x record, s.subjects[x]? = some record → record.incarnation =
      (s.judged x).length + if record.liveness = .dead then 0 else 1) ∧
    (∀ x, (s.judged x).Nodup) ∧
    (∀ j ∈ s.deadJudgments, ∀ m ∈ marks, m.Concerns j.subject → m.epoch = j.epoch →
      m.tick + s.config.deadAfter ≤ j.deadAt) ∧
    (∀ (x : MonitoredSubject) (record : SubjectRecord), s.subjects[x]? = some record →
      record.liveness ≠ .dead → (record.suspectedAt.isSome ↔ record.liveness = .suspect)) ∧
    ∀ newFence t report, s.onEpochAdvanced newFence = (t, .ok report) →
      (∀ voided ∈ report.suspicionsVoided, voided.1 ∈ s.subjects) ∧
      ∀ (x : MonitoredSubject) (record : SubjectRecord), s.subjects[x]? = some record →
        record.liveness ≠ .dead →
        ((∃ tick, (x, tick) ∈ report.suspicionsVoided) ↔ record.liveness = .suspect) := by
  have h : Sound s marks := sound_of_run hrun
  refine ⟨fun x record hrecord => ?_, fun x => ?_, fun j hj m hm hx hepoch =>
    h.judged m hm j hj hx hepoch.symm, fun _ _ _ => suspectedAt_iff, ?_⟩
  · obtain ⟨-, hpos, -, hjudged⟩ := h.rows x record hrecord
    rw [hjudged, length_range']
    unfold SubjectRecord.liveness
    split_ifs <;> simp_all
    all_goals omega
  · cases hrecord : s.subjects[x]? with
    | some record =>
      rw [(h.rows x record hrecord).2.2.2]
      exact nodup_range'
    | none =>
      have hnone : s.deadJudgments.filter (·.subject = x) = [] := by
        refine filter_eq_nil_iff.mpr fun j hj hx => ?_
        obtain ⟨-, record, hsome, -⟩ := h.judgments j hj
        simp [of_decide_eq_true hx, hrecord] at hsome
      simp [FailureDetector.judged, hnone]
  · intro newFence t report hcall
    refine ⟨fun voided hvoided => ?_, fun x record hrecord halive => ?_⟩
    · obtain ⟨record, hrecord, -⟩ := (mem_suspicionsVoided hcall).mp ⟨voided.2, hvoided⟩
      exact ExtTreeMap.mem_iff_isSome_getElem?.mpr (by simp [hrecord])
    · rw [mem_suspicionsVoided hcall, ← suspectedAt_iff halive]
      simp [hrecord]

def sampleFence : CellFence := ⟨0, ⟨1, one_ne_zero_u64⟩⟩

def sampleConfig : FailureDetectorConfig := ⟨1, 2, by decide, by decide⟩

/-- A subject falls silent, is suspected and then judged. -/
def silent : FailureDetector :=
  let heard := ((FailureDetector.new sampleFence sampleConfig).recordHeartbeat (.fiber 0) 0).1
  ((heard.sweep 1).1.sweep 2).1

lemma run_silent : ∃ marks, Relation.ReflTransGen World.Evolves
    ⟨.new sampleFence sampleConfig, []⟩ ⟨silent, marks⟩ :=
  ⟨_, .tail (.tail (.single (.recordHeartbeat (.fiber 0) 0)) (.sweep 1)) (.sweep 2)⟩

theorem verdicts_exact_silent : silent.judged (.fiber 0) = [1] ∧ ∃ marks,
    Relation.ReflTransGen World.Evolves ⟨.new sampleFence sampleConfig, []⟩ ⟨silent, marks⟩ ∧
    (∀ x (record : SubjectRecord), silent.subjects[x]? = some record → record.incarnation =
      (silent.judged x).length + if record.liveness = .dead then 0 else 1) ∧
    (∀ x, (silent.judged x).Nodup) ∧
    (∀ j ∈ silent.deadJudgments, ∀ m ∈ marks, m.Concerns j.subject → m.epoch = j.epoch →
      m.tick + silent.config.deadAfter ≤ j.deadAt) ∧
    (∀ (x : MonitoredSubject) (record : SubjectRecord), silent.subjects[x]? = some record →
      record.liveness ≠ .dead → (record.suspectedAt.isSome ↔ record.liveness = .suspect)) ∧
    ∀ newFence t report, silent.onEpochAdvanced newFence = (t, .ok report) →
      (∀ voided ∈ report.suspicionsVoided, voided.1 ∈ silent.subjects) ∧
      ∀ (x : MonitoredSubject) (record : SubjectRecord), silent.subjects[x]? = some record →
        record.liveness ≠ .dead →
        ((∃ tick, (x, tick) ∈ report.suspicionsVoided) ↔ record.liveness = .suspect) := by
  obtain ⟨marks, hrun⟩ := run_silent
  exact ⟨by decide +kernel, marks, hrun, verdicts_exact hrun⟩

/-- A dead subject counts its own judgment, keeps its suspicion and has it voided. -/
theorem dead_keeps_suspicion : ∃ marks s, Relation.ReflTransGen World.Evolves
    ⟨.new sampleFence sampleConfig, []⟩ ⟨s, marks⟩ ∧
    (∃ record ∈ s.subjects[MonitoredSubject.fiber 0]?, record.liveness = .dead ∧
      record.incarnation ≠ 1 + (s.judged (.fiber 0)).length ∧ record.suspectedAt.isSome) ∧
    ∃ report ∈ (s.onEpochAdvanced ⟨0, ⟨2, by decide⟩⟩).2.toOption,
      (MonitoredSubject.fiber 0, 1) ∈ report.suspicionsVoided := by
  obtain ⟨marks, hrun⟩ := run_silent
  exact ⟨marks, silent, hrun, by decide +kernel, by decide +kernel⟩

end Nlos.Cell
