import Nlos.Operation.Machine

/-!
# The outbox consumer

The consumer polls the first entries that are not acknowledged, applies each to its sink and then
acknowledges it, and stops at the first failure. A pass can also be cut off after any of these
effects.
-/

namespace Nlos.Outbox

open Lib Capability Operation List

inductive OutboxKind where
  | wakeFiber
  | reconcileEffect
deriving DecidableEq

structure OutboxItem where
  sequence : ℕ
  kind : OutboxKind
  operationId : Word 16
  operationGeneration : Generation
  ownerFiber : FiberHandle
  callbackId : Option (Word 16)
  state : OperationState
deriving DecidableEq

inductive OutboxError where
  | source (detail : String)
  | reconcile (detail : String)

def OutboxError.display : OutboxError → String
  | source detail => "outbox source error: " ++ detail
  | reconcile detail => "outbox reconcile error: " ++ detail

inductive WakeOutcome where
  | delivered
  | fiberGone
  | notWaiting

inductive RuntimeError where
  | duplicateFiber
  | invalidGeneration
  | cancelled
  | deadlineExceeded
  | queueFull
  | shuttingDown
  | fiberReaped (fiberId : Word 16) (generation : Generation)

def RuntimeError.display : RuntimeError → String
  | duplicateFiber => "execution fiber already exists"
  | invalidGeneration => "execution fiber generation is stale"
  | cancelled => "cancellation scope is cancelled"
  | deadlineExceeded => "execution fiber deadline was exceeded"
  | queueFull => "runtime admission queue is full"
  | shuttingDown => "runtime is shutting down"
  | fiberReaped _ _ => "execution fiber record was already reaped"

inductive DrainStopPhase where
  | wake
  | reconcile
  | ack

structure DrainStop where
  phase : DrainStopPhase
  error : String

structure DrainReport where
  (polled applied acked : ℕ)
  stoppedAt : Option ℕ
  failure : Option DrainStop
  shutdown : Bool

/-- What the sinks and the source answer in one pass. An acknowledgement that fails says whether
it was committed all the same. -/
structure Answers where
  wake : OutboxItem → Except RuntimeError WakeOutcome
  reconcile : OutboxItem → Except OutboxError Unit
  ack : ℕ → Except (OutboxError × Bool) Unit

inductive Effect where
  | applied (item : OutboxItem)
  | acked (sequence : ℕ)
deriving DecidableEq

/-- Applies an entry to its sink. A failure carries the report of the stopped pass. -/
def Answers.apply (answers : Answers) (report : DrainReport) (item : OutboxItem) :
    Except DrainReport Unit :=
  let stopped := { report with stoppedAt := some item.sequence }
  match item.kind with
  | .wakeFiber =>
    match answers.wake item with
    | .ok _ => .ok ()
    | .error .shuttingDown => .error { stopped with shutdown := true }
    | .error error => .error { stopped with failure := some ⟨.wake, error.display⟩ }
  | .reconcileEffect =>
    match answers.reconcile item with
    | .ok () => .ok ()
    | .error error => .error { stopped with failure := some ⟨.reconcile, error.display⟩ }

/-- The loop of a pass, with the effects it has had. -/
def drainItems (answers : Answers) : DrainReport → List OutboxItem → List Effect × DrainReport
  | report, [] => ([], report)
  | report, item :: rest =>
    match answers.apply report item with
    | .error report => ([], report)
    | .ok () =>
      let report := { report with applied := report.applied + 1 }
      match answers.ack item.sequence with
      | .error (error, committed) =>
        (.applied item :: if committed then [.acked item.sequence] else [],
          { report with
            stoppedAt := some item.sequence
            failure := some ⟨.ack, error.display⟩ })
      | .ok () =>
        let (effects, report) := drainItems answers { report with acked := report.acked + 1 } rest
        (.applied item :: .acked item.sequence :: effects, report)

/-- One pass over what the source returns as pending. -/
def drainOnce (answers : Answers) (pending : Except OutboxError (List OutboxItem)) :
    List Effect × Except OutboxError DrainReport :=
  match pending with
  | .error error => ([], .error error)
  | .ok items =>
    if (items.zip items.tail).any fun pair => pair.2.sequence ≤ pair.1.sequence then
      ([], .error (.source "pending entries are not in strictly ascending sequence order"))
    else
      let (effects, report) := drainItems answers ⟨items.length, 0, 0, none, none, false⟩ items
      (effects, .ok report)

/-- The entries committed so far and the effects on them, oldest first. -/
structure World where
  entries : List OutboxItem
  log : List Effect

/-- The first entries that are not acknowledged. -/
def World.pending (w : World) (limit : ℕ) : List OutboxItem :=
  (w.entries.filter fun entry => .acked entry.sequence ∉ w.log).take limit

/-- The authority commits an entry under the next sequence number, or a pass has the first of its
effects, all of them unless it is cut off. -/
inductive World.Evolves (w : World) : World → Prop
  | commit {item} : (∀ entry ∈ w.entries, entry.sequence < item.sequence) →
      Evolves w { w with entries := w.entries ++ [item] }
  | pass {limit answers pending} (cut : ℕ) :
      (∀ items, pending = .ok items → items = w.pending limit) →
      Evolves w { w with log := w.log ++ (drainOnce answers pending).1.take cut }

/-- What must have happened before an effect. -/
def Effect.Due (entries : List OutboxItem) (before : List Effect) : Effect → Prop
  | .acked sequence => ∃ item, .applied item ∈ before ∧ item.sequence = sequence
  | .applied item => item ∈ entries ∧
      (.applied item ∉ before → ∀ entry ∈ entries, entry.sequence < item.sequence →
        .applied entry ∈ before) ∧
      (.applied item ∈ before → .acked item.sequence ∉ before)

/-- Each entry is applied and then acknowledged before the next one is applied. -/
inductive Alternates : List OutboxItem → List Effect → Prop
  | nil {items} : Alternates items []
  | applied {item rest} : Alternates (item :: rest) [.applied item]
  | acked {item rest effects} : Alternates rest effects →
      Alternates (item :: rest) (.applied item :: .acked item.sequence :: effects)

variable {answers : Answers} {items : List OutboxItem} {effects log : List Effect}
  {item : OutboxItem} {entries done rest : List OutboxItem} {w v : World}

lemma Alternates.take (h : Alternates items effects) (n : ℕ) :
    Alternates items (effects.take n) := by
  induction h generalizing n with
  | nil => simpa using .nil
  | applied =>
    cases n with
    | zero => exact .nil
    | succ => simpa using .applied
  | acked _ ih =>
    match n with
    | 0 => exact .nil
    | 1 => exact .applied
    | n + 2 => exact .acked (ih n)

lemma drainItems_alternates (report : DrainReport) :
    Alternates items (drainItems answers report items).1 := by
  induction items generalizing report with
  | nil => exact .nil
  | cons item rest ih =>
    unfold drainItems
    split
    · exact .nil
    · split
      · split
        · exact .acked .nil
        · exact .applied
      · exact .acked (ih _)

lemma drainOnce_alternates {pending} (h : ∀ items', pending = .ok items' → items' = items) :
    Alternates items (drainOnce answers pending).1 := by
  unfold drainOnce
  split
  · exact .nil
  · next items' =>
    obtain rfl := h items' rfl
    split
    · exact .nil
    · exact drainItems_alternates _

/-- The acknowledged entries come first. Of the others only the first can have been applied. -/
structure Delivered (entries done rest : List OutboxItem) (log : List Effect) : Prop where
  ascending : entries.Pairwise (·.sequence < ·.sequence)
  split : entries = done ++ rest
  acked : ∀ sequence, .acked sequence ∈ log ↔ ∃ item ∈ done, item.sequence = sequence
  applied : ∀ item ∈ done, .applied item ∈ log
  begun : ∀ item, .applied item ∈ log → item ∈ done ∨ rest.head? = some item
  due : ∀ before effect, before ++ [effect] <+: log → effect.Due entries before

lemma due_append {effect} (h : ∀ before effect, before ++ [effect] <+: log →
    effect.Due entries before) (hdue : effect.Due entries log) (before : List Effect)
    (effect' : Effect) (hinitial : before ++ [effect'] <+: log ++ [effect]) :
    effect'.Due entries before := by
  rcases prefix_concat_iff.mp hinitial with heq | hinitial
  · obtain ⟨rfl, hlast⟩ := append_inj' heq rfl
    rwa [(cons.inj hlast).1]
  · exact h before effect' hinitial

namespace Delivered

lemma lt (h : Delivered entries done rest log) {entry} (hdone : entry ∈ done)
    (hrest : item ∈ rest) : entry.sequence < item.sequence :=
  (pairwise_append.mp (h.split ▸ h.ascending)).2.2 entry hdone item hrest

lemma not_acked (h : Delivered entries done rest log) (hmem : item ∈ rest) :
    .acked item.sequence ∉ log := by
  intro hacked
  obtain ⟨other, hother, hsame⟩ := (h.acked _).mp hacked
  exact (h.lt hother hmem).ne hsame

lemma mem_done (h : Delivered entries done (item :: rest) log) {entry} (hentry : entry ∈ entries)
    (hlt : entry.sequence < item.sequence) : entry ∈ done := by
  have hsplit := pairwise_append.mp (h.split ▸ h.ascending)
  rw [h.split] at hentry
  rcases mem_append.mp hentry with hdone | hrest
  · exact hdone
  · rcases mem_cons.mp hrest with rfl | hlater
    · exact absurd hlt (lt_irrefl _)
    · exact absurd hlt (rel_of_pairwise_cons hsplit.2.1 hlater).not_gt

lemma apply_first (h : Delivered entries done (item :: rest) log) :
    Delivered entries done (item :: rest) (log ++ [.applied item]) where
  ascending := h.ascending
  split := h.split
  acked := by simpa using h.acked
  applied := fun other hother => mem_append_left _ (h.applied other hother)
  begun := by
    intro other hother
    rcases mem_append.mp hother with hother | hother
    · exact h.begun other hother
    · simp_all
  due := by
    refine due_append h.due (show Effect.Due _ _ (.applied item) from ⟨by simp [h.split], ?_, ?_⟩)
    · exact fun _ entry hentry hlt => h.applied entry (h.mem_done hentry hlt)
    · exact fun _ => h.not_acked mem_cons_self

lemma ack_first (h : Delivered entries done (item :: rest) log) (happlied : .applied item ∈ log) :
    Delivered entries (done ++ [item]) rest (log ++ [.acked item.sequence]) where
  ascending := h.ascending
  split := by simpa using h.split
  acked := by
    intro sequence
    rw [mem_append, h.acked]
    simp [or_and_right, exists_or, eq_comm]
  applied := by
    refine forall_mem_append.mpr ⟨fun other hother => ?_, forall_mem_singleton.mpr ?_⟩
    · exact mem_append_left _ (h.applied other hother)
    · exact mem_append_left _ happlied
  begun := by
    intro other hother
    rcases h.begun other (by simpa using hother) with hdone | hitem
    · exact .inl (mem_append_left _ hdone)
    · exact .inl (by simp_all)
  due := due_append h.due (show Effect.Due _ _ (.acked item.sequence) from ⟨item, happlied, rfl⟩)

lemma extend (h : Delivered entries done rest log) (halternates : Alternates items effects)
    (hitems : items <+: rest) : ∃ done rest, Delivered entries done rest (log ++ effects) := by
  induction halternates generalizing done rest log with
  | nil => exact ⟨done, rest, by simpa using h⟩
  | applied =>
    obtain ⟨later, rfl⟩ := hitems
    exact ⟨_, _, h.apply_first⟩
  | @acked item items effects _ ih =>
    obtain ⟨later, rfl⟩ := hitems
    obtain ⟨done', rest', h'⟩ := ih (h.apply_first.ack_first (by simp)) (prefix_append items later)
    exact ⟨done', rest', by simpa using h'⟩

lemma pending_initial (h : Delivered w.entries done rest w.log) (limit : ℕ) :
    w.pending limit <+: rest := by
  have hdone : (done.filter fun entry => .acked entry.sequence ∉ w.log) = [] := by
    refine filter_eq_nil_iff.mpr fun entry hentry => ?_
    simpa using (h.acked _).mpr ⟨entry, hentry, rfl⟩
  have hrest : (rest.filter fun entry => .acked entry.sequence ∉ w.log) = rest :=
    filter_eq_self.mpr fun entry hentry => by simpa using h.not_acked hentry
  rw [World.pending, h.split, filter_append, hdone, hrest]
  exact take_prefix limit rest

lemma commit (h : Delivered entries done rest log)
    (hlast : ∀ entry ∈ entries, entry.sequence < item.sequence) :
    Delivered (entries ++ [item]) done (rest ++ [item]) log where
  ascending := pairwise_append.mpr ⟨h.ascending, pairwise_singleton _ _, by simpa using hlast⟩
  split := by simp [h.split]
  acked := h.acked
  applied := h.applied
  begun := fun other hother => (h.begun other hother).imp_right fun hhead => by simp [hhead]
  due := by
    intro before effect hinitial
    have hdue := h.due before effect hinitial
    cases effect with
    | acked => exact hdue
    | applied other =>
      obtain ⟨hmem, hfirst, hagain⟩ := hdue
      refine ⟨mem_append_left _ hmem, fun hnew => ?_, hagain⟩
      refine forall_mem_append.mpr ⟨hfirst hnew, forall_mem_singleton.mpr fun hlt => ?_⟩
      exact absurd hlt (hlast other hmem).not_gt

end Delivered

lemma delivered_of_evolves (h : w.Evolves v)
    (hw : ∃ done rest, Delivered w.entries done rest w.log) :
    ∃ done rest, Delivered v.entries done rest v.log := by
  obtain ⟨done, rest, hw⟩ := hw
  cases h with
  | commit hlast => exact ⟨done, _, hw.commit hlast⟩
  | pass cut hpending =>
    exact hw.extend ((drainOnce_alternates hpending).take cut) (hw.pending_initial _)

/-- In every history an entry is acknowledged only after it has been applied. When an entry is
first applied all earlier ones have been, and it is applied again only while it is not
acknowledged. -/
theorem delivery_in_order (hrun : Relation.ReflTransGen World.Evolves ⟨[], []⟩ w) :
    w.entries.Pairwise (·.sequence < ·.sequence) ∧ ∀ before effect,
      before ++ [effect] <+: w.log → effect.Due w.entries before := by
  have hdelivered : ∃ done rest, Delivered w.entries done rest w.log := by
    induction hrun with
    | refl => exact ⟨[], [], .nil, rfl, by simp, by simp, by simp, by simp⟩
    | tail _ hstep ih => exact delivered_of_evolves hstep ih
  obtain ⟨done, rest, h⟩ := hdelivered
  exact ⟨h.ascending, h.due⟩

def sampleItem : OutboxItem :=
  ⟨1, .wakeFiber, 0, ⟨1, one_ne_zero_u64⟩, ⟨0, ⟨1, one_ne_zero_u64⟩⟩, none, .registered⟩

def laterItem : OutboxItem := { sampleItem with sequence := 2 }

def acking (ack : ℕ → Except (OutboxError × Bool) Unit) : Answers :=
  ⟨fun _ => .ok .delivered, fun _ => .ok (), ack⟩

/-- The acknowledgement of the first of two entries fails, and the next pass delivers both. -/
theorem delivery_in_order_sample : ∃ w, Relation.ReflTransGen World.Evolves ⟨[], []⟩ w ∧
    w.log = [.applied sampleItem, .applied sampleItem, .acked 1, .applied laterItem, .acked 2] ∧
    w.entries.Pairwise (·.sequence < ·.sequence) ∧ ∀ before effect,
      before ++ [effect] <+: w.log → effect.Due w.entries before := by
  have hcommitted : Relation.ReflTransGen World.Evolves ⟨[], []⟩ ⟨[sampleItem, laterItem], []⟩ :=
    .tail (.single (.commit (by simp))) (.commit (by decide))
  have hfailed := hcommitted.tail (@World.Evolves.pass _ 2
    (acking fun _ => .error (.source "unavailable", false)) (.ok [sampleItem, laterItem]) 4
    (by rintro _ ⟨⟩; decide))
  have hrun := hfailed.tail (@World.Evolves.pass _ 2 (acking fun _ => .ok ())
    (.ok [sampleItem, laterItem]) 4 (by rintro _ ⟨⟩; decide))
  exact ⟨_, hrun, by decide, delivery_in_order hrun⟩

end Nlos.Outbox
