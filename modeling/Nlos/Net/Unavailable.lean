import Nlos.Net.Session

/-!
# What an unavailable outcome means

A call that returns `Unavailable` has a request frame that never reaches the wire, unless a wait
for the write timed out while the frame was queued or just taken by the writer.
-/

namespace Nlos.Net

open Lib Capability SessionCall List

def CallStage.isEnded : CallStage → Bool
  | .checked | .registered | .queued | .written => false
  | _ => true

def CallStage.isUnavailable : CallStage → Bool
  | .failed .beforeFirstPayloadByte .. => true
  | _ => false

/-- The frame is neither on its way nor on the wire. -/
def Place.isGone : Place → Bool
  | .unsent | .dropped => true
  | _ => false

namespace SessionCall

variable {c c' : SessionCall} {hasty : Prop}

/-- The writer reported that it did not write the frame. -/
def writeLost (c : SessionCall) : Bool :=
  match c.writeDone with
  | .dropped | .sent (.error (.beforeFirstPayloadByte, _)) => true
  | _ => false

/-- The call ended and its frame will never be written. -/
def Dead (c : SessionCall) : Prop := c.stage.isEnded ∧ c.place.isGone

/-- How the stage of a call, the place of its frame and the signals of the writer fit. -/
structure Tracked (c : SessionCall) : Prop where
  unsent : c.stage = .checked ∨ c.stage = .registered → c.place = .unsent
  started : c.place = .writing ∨ c.place = .onWire → c.writeStarted
  lost : c.writeLost → c.place = .dropped

/-- What a step does to a call. -/
structure Moves (hasty : Prop) (c c' : SessionCall) : Prop where
  tracked : c'.Tracked
  dead : c.Dead → c'.Dead
  wire : c.place = .onWire → c'.place = .onWire
  unavailable : c'.stage.isUnavailable → c.stage.isUnavailable ∨ c'.Dead ∨ hasty

lemma moves_fail (hc : c.Tracked) (hopen : c.stage.isEnded = false)
    (h : phase = .beforeFirstPayloadByte → c.place.isGone ∨ hasty) :
    Moves hasty c (c.fail phase kind) where
  tracked := ⟨nofun, hc.started, hc.lost⟩
  dead := by simp [Dead, hopen]
  wire := id
  unavailable := fun hun => by
    cases phase with
    | beforeFirstPayloadByte => exact .inr ((h rfl).imp_left fun hgone => ⟨rfl, hgone⟩)
    | afterFirstPayloadByte => cases hun

lemma moves_writeResult (hc : c.Tracked) (hopen : c.stage.isEnded = false)
    (h : c.writeResult = some c') : Moves hasty c c' := by
  unfold writeResult at h
  split at h <;> cases h
  · next hdone =>
    refine moves_fail hc hopen fun _ => .inl ?_
    rw [hc.lost (by rw [writeLost, hdone])]
    rfl
  · next hdone =>
    refine moves_fail hc hopen fun hphase => .inl ?_
    rw [hc.lost (by rw [writeLost, hdone, hphase])]
    rfl
  · exact ⟨⟨nofun, hc.started, hc.lost⟩, by simp [Dead, hopen], id, nofun⟩

/-- A flag that is not set shows a frame that is gone or still on its way. -/
lemma gone_of_not_started (hc : c.Tracked) (hphase : c.observedPhase = .beforeFirstPayloadByte)
    (hway : ¬ (c.place = .queued ∨ c.place = .taken)) : c.place.isGone := by
  have hstarted := hc.started
  unfold observedPhase at hphase
  cases hplace : c.place <;> simp_all [Place.isGone]

lemma Tracked.moves_response (hc : c.Tracked) : Moves hasty c { c with response := r } :=
  ⟨⟨hc.1, hc.2, hc.3⟩, id, id, .inl⟩

lemma Tracked.moves_refl (hc : c.Tracked) : Moves hasty c c :=
  hc.moves_response (r := c.response)

end SessionCall

namespace Session

variable {s t u : Session} {a : SessionAct} {i : ℕ} {c c' : SessionCall}

/-- The wait of a call for its write ends while the writer has not started on the frame. -/
def Hasty (s : Session) (a : SessionAct) (i : ℕ) : Prop :=
  (a = .ofCall i .writeTimeout ∨ a = .ofCall i .transferTimeout) ∧
    ∃ c, s.calls[i]? = some c ∧ (c.place = .queued ∨ c.place = .taken)

lemma moves_timeout (hc : s.calls[i]? = some c) (htracked : c.Tracked)
    (hopen : c.stage.isEnded = false)
    (ha : a = .ofCall i .writeTimeout ∨ a = .ofCall i .transferTimeout) :
    c.Moves (s.Hasty a i) (c.fail c.observedPhase kind) := by
  refine moves_fail htracked hopen fun hphase => ?_
  by_cases hway : c.place = .queued ∨ c.place = .taken
  · exact .inr ⟨ha, c, hc, hway⟩
  · exact .inl (gone_of_not_started htracked hphase hway)

lemma moves_of_callAct (hc : s.calls[i]? = some c) (htracked : c.Tracked)
    (h : s.callAct i c b = some c') : c.Moves (s.Hasty (.ofCall i b) i) c' := by
  cases b with
  | writeTimeout =>
    obtain ⟨⟨-, hstage⟩, h⟩ := Option.ite_none_right_eq_some.mp h
    obtain rfl := Option.some.inj h
    exact moves_timeout hc htracked (by rw [hstage]; rfl) (.inl rfl)
  | transferTimeout =>
    simp only [callAct] at h
    split_ifs at h with hwritten hwait <;> obtain rfl := Option.some.inj h
    · exact moves_fail htracked (by rw [hwritten.2]; rfl) nofun
    · refine moves_timeout hc htracked ?_ (.inr rfl)
      obtain hstage | hstage := hwait.2 <;> rw [hstage] <;> rfl
  | writeResult =>
    obtain ⟨hstage, h⟩ := Option.ite_none_right_eq_some.mp h
    exact moves_writeResult htracked (by rw [hstage]; rfl) h
  | _ =>
    -- no other act fails a call that was sent before its first byte
    obtain ⟨hunsent, hstarted, hlost⟩ := htracked
    simp only [callAct, responseResult, finish, fail] at h
    repeat' split at h
    all_goals cases h
    all_goals
      refine ⟨⟨?_, ?_, ?_⟩, ?_, ?_, ?_⟩ <;>
        simp_all [SessionCall.Dead, CallStage.isEnded, CallStage.isUnavailable, Place.isGone,
          writeLost]

def Sound (s : Session) : Prop :=
  ∀ (i : ℕ) (c : SessionCall), s.calls[i]? = some c → c.Tracked

structure Steps (s t : Session) (a : SessionAct) : Prop where
  follows : ∀ (i : ℕ) (c : SessionCall), s.calls[i]? = some c →
    ∃ c', t.calls[i]? = some c' ∧ c.Moves (s.Hasty a i) c'
  fresh : ∀ (i : ℕ) (c' : SessionCall), t.calls[i]? = some c' → s.calls[i]? = none →
    c'.Tracked ∧ (c'.stage.isUnavailable → c'.Dead)

lemma steps_map (hs : s.Sound) (hcalls : t.calls = s.calls.map f)
    (hf : ∀ i (c : SessionCall), c.Tracked → c.Moves (s.Hasty a i) (f c)) : s.Steps t a where
  follows := fun i c hc => ⟨f c, by rw [hcalls, getElem?_map, hc]; rfl, hf i c (hs i c hc)⟩
  fresh := fun i c' hc' hnone => by simp [hcalls, hnone] at hc'

lemma steps_same (hs : s.Sound) (hcalls : t.calls = s.calls) : s.Steps t a :=
  steps_map (f := id) hs (by rw [hcalls, map_id]) fun _ _ hc => hc.moves_refl

lemma steps_set (hs : s.Sound) (hcalls : t.calls = s.calls.set i c')
    (hc : s.calls[i]? = some c) (hmoves : c.Moves (s.Hasty a i) c') : s.Steps t a := by
  refine ⟨fun j d hd => ?_, fun j d hd hnone => ?_⟩
  · rw [hcalls, List.getElem?_set]
    split
    · next hij =>
      subst hij
      obtain rfl := Option.some.inj (hc.symm.trans hd)
      exact ⟨c', by simp [(List.getElem?_eq_some_iff.mp hc).1], hmoves⟩
    · exact ⟨d, hd, (hs j d hd).moves_refl⟩
  · have hj := (List.getElem?_eq_some_iff.mp hd).1
    rw [hcalls, List.length_set] at hj
    simp [hj] at hnone

lemma steps_call (hs : s.Sound) {contract request elapsedTicks} : s.Steps
    (s.call contract request elapsedTicks) a where
  follows := fun i c hc => by
    have hi := (List.getElem?_eq_some_iff.mp hc).1
    exact ⟨c, by rw [call, List.getElem?_append_left hi, hc], (hs i c hc).moves_refl⟩
  fresh := fun i c' hc' hnone => by
    have hi := (List.getElem?_eq_some_iff.mp hc').1
    have hle := List.getElem?_eq_none_iff.mp hnone
    obtain rfl : i = s.calls.length := by simp [call] at hi; omega
    obtain rfl := Option.some.inj (List.getElem?_concat_length.symm.trans hc')
    refine ⟨⟨fun _ => rfl, fun h => by simp at h, nofun⟩, fun hun => ⟨?_, rfl⟩⟩
    revert hun
    dsimp only
    cases s.callStage request <;> first | exact fun _ => rfl | exact nofun

lemma steps_of_act (hs : s.Sound) (h : s.act a = some t) : s.Steps t a := by
  cases a with
  | call contract request elapsedTicks =>
    obtain rfl := Option.some.inj h
    exact steps_call hs
  | ofCall i b =>
    obtain ⟨c, hc, h⟩ := Option.bind_eq_some_iff.mp h
    obtain ⟨c', hc', h⟩ := Option.bind_eq_some_iff.mp h
    obtain rfl := Option.some.inj h
    exact steps_set hs rfl hc (moves_of_callAct hc (hs i c hc) hc')
  | poll | failOther =>
    obtain ⟨-, h⟩ := Option.ite_none_right_eq_some.mp h
    obtain rfl := Option.some.inj h
    exact steps_same hs rfl
  | stop =>
    obtain ⟨-, h⟩ := Option.ite_none_right_eq_some.mp h
    obtain rfl := Option.some.inj h
    refine steps_map hs rfl fun i c hc => ?_
    obtain ⟨hunsent, hstarted, hlost⟩ := id hc
    unfold dropQueued
    split
    · refine ⟨⟨?_, ?_, ?_⟩, ?_, ?_, ?_⟩ <;>
        simp_all [SessionCall.Dead, Place.isGone, writeLost]
    · exact hc.moves_refl
  | recordFailure | sendShutdown =>
    obtain rfl := Option.some.inj h
    exact steps_same hs rfl
  | abortResponses kind =>
    obtain rfl := Option.some.inj h
    refine steps_map hs rfl fun i c hc => ?_
    unfold abortResponse
    split
    · exact hc.moves_response
    · exact hc.moves_refl

lemma Steps.exists_before (h : s.Steps t a) (hc : t.calls[i]? = some c') :
    s.calls[i]? = none ∨ ∃ c, s.calls[i]? = some c ∧ c.Moves (s.Hasty a i) c' := by
  cases hold : s.calls[i]? with
  | none => exact .inl rfl
  | some c =>
    obtain ⟨c'', hc'', hmoves⟩ := h.follows i c hold
    obtain rfl := Option.some.inj (hc''.symm.trans hc)
    exact .inr ⟨c, rfl, hmoves⟩

lemma Steps.sound (h : s.Steps t a) : t.Sound := by
  intro i c' hc'
  obtain hnone | ⟨c, hc, hmoves⟩ := h.exists_before hc'
  · exact (h.fresh i c' hc' hnone).1
  · exact hmoves.tracked

/-- What an event of the session does to its calls. -/
lemma steps_of_step (hs : s.Sound) (h : s.step a = .ok (t, v)) : s.Steps t a := by
  obtain ⟨t', hact, heq⟩ := map_eq_ok.mp h
  obtain ⟨rfl, -⟩ := Prod.mk.inj heq
  exact steps_of_act hs (orRefuse_eq_ok.mp hact)

variable {n : ℕ} {h h₁ h₂ : List (Event Session SessionAct Unit)}

/-- The stage of a call, the place of its frame and the signals of the writer fit in every run. -/
lemma sound_run (hrun : Run step { maxControlPayloadBytes := n } h t) : t.Sound :=
  hrun.invariant (P := Sound) (by simp [Sound]) fun hs hstep => (steps_of_step hs hstep).sound

/-- Without a hasty wait, a call that ended unavailable has a frame that will not be written. -/
lemma dead_of_unavailable (hrun : Run step { maxControlPayloadBytes := n } h t)
    (hcalm : ∀ e ∈ h, ¬ e.pre.Hasty e.input i) (hc : t.calls[i]? = some c)
    (hun : c.stage.isUnavailable) : c.Dead := by
  induction hrun generalizing c with
  | refl => simp at hc
  | snoc hpre hstep ih =>
    have hsteps := steps_of_step (sound_run hpre) hstep
    obtain hnone | ⟨d, hd, hmoves⟩ := hsteps.exists_before hc
    · exact (hsteps.fresh i c hc hnone).2 hun
    obtain hbefore | hnow | hhasty := hmoves.unavailable hun
    · exact hmoves.dead (ih (fun e he => hcalm e (mem_append_left _ he)) hd hbefore)
    · exact hnow
    · exact absurd hhasty (hcalm _ (mem_append_right _ mem_cons_self))

/-- Frames stay on the wire, and those that were given up stay away from it. -/
lemma run_call (hrun : Run step s h t) (hs : s.Sound) (hc : s.calls[i]? = some c) :
    t.Sound ∧ ∃ c', t.calls[i]? = some c' ∧ (c.Dead → c'.Dead) ∧
      (c.place = .onWire → c'.place = .onWire) := by
  induction hrun with
  | refl => exact ⟨hs, c, hc, id, id⟩
  | snoc _ hstep ih =>
    obtain ⟨hsound, c', hc', hdead, hwire⟩ := ih
    have hsteps := steps_of_step hsound hstep
    obtain ⟨c'', hc'', hmoves⟩ := hsteps.follows i c' hc'
    exact ⟨hsteps.sound, c'', hc'', hmoves.dead ∘ hdead, hmoves.wire ∘ hwire⟩

lemma isUnavailable_of_outcome (hout : c.outcome? = some (.unavailable d r k, kind))
    (hreply : c.stage ≠ .refused) : c.stage.isUnavailable := by
  unfold outcome? at hout
  split at hout
  · simp at hout
  · next phase elapsed kind hstage =>
    rw [hstage]
    cases phase with
    | beforeFirstPayloadByte => rfl
    | afterFirstPayloadByte => simp [RemoteCallContract.classifyTransportFailure,
        RemoteCallContract.classifyInflightTimeout] at hout
  · next hstage => exact absurd hstage hreply
  · cases hout

/-- If the wait for the write never ended while the writer had not started on the frame, a call
that returned `Unavailable` without such a reply has a frame that is never written, neither before
nor after. -/
theorem unavailable_never_written (hrun₁ : Run step { maxControlPayloadBytes := n } h₁ s)
    (hcalm : ∀ e ∈ h₁, ¬ e.pre.Hasty e.input i) (hc : s.calls[i]? = some c)
    {d : ℕ} {r : RemoteRetryDirective} {k : IdempotencyKey} {kind : Option SocketFailureKind}
    (hout : c.outcome? = some (.unavailable d r k, kind)) (hreply : c.stage ≠ .refused)
    (hrun₂ : Run step s h₂ t) (hu : u ∈ states (h₁ ++ h₂) t) (hc' : u.calls[i]? = some c') :
    c'.place ≠ .onWire := by
  intro hwire
  obtain ⟨g₁, g₂, -, hto, hfrom⟩ := (hrun₁.trans hrun₂).split_at hu
  obtain ⟨-, d₁, hd₁, hdead, -⟩ := run_call hrun₂ (sound_run hrun₁) hc
  obtain ⟨-, d₂, hd₂, -, hlast⟩ := run_call hfrom (sound_run hto) hc'
  obtain rfl := Option.some.inj (hd₁.symm.trans hd₂)
  have hun := isUnavailable_of_outcome hout hreply
  have hgone := (hdead (dead_of_unavailable hrun₁ hcalm hc hun)).2
  simp [hlast hwire, Place.isGone] at hgone

def sampleContract (key : IdempotencyKey) : RemoteCallContract := ⟨0, key, 100, 3, 0, true⟩

/-- The writer stops between the checks of a call and its send, and the failure is noted after the
call has returned. -/
theorem unavailable_never_written_after_stop :
    ∃ h₁ h₂ s t c, Run step { maxControlPayloadBytes := 8 } h₁ s ∧ s.calls[0]? = some c ∧
      c.outcome? = some (.unavailable 100 .safeToRetryWithSameKey 1, some .connectionReset) ∧
      Run step s h₂ t ∧ h₂.map Event.input = [.recordFailure .connectionReset] ∧
      ∃ c' ∈ t.calls[0]?, c'.place ≠ .onWire := by
  obtain ⟨h, s, hrun, hinputs, hcheck⟩ := exists_run_of_runCheck (show runCheck step
    { maxControlPayloadBytes := 8 }
    [.call (sampleContract 1) (.controlRpcRequest [7]) 5, .ofCall 0 .register, .sendShutdown,
      .stop, .ofCall 0 .send] (fun _ t => t.calls[0]?.any fun c => c.stage ≠ .refused ∧
      c.outcome? = some (.unavailable 100 .safeToRetryWithSameKey 1, some .connectionReset)) =
    true by decide +kernel)
  obtain ⟨c, hc, hout⟩ := (Option.any_eq_true _ _).mp hcheck
  obtain ⟨hreply, hout⟩ := of_decide_eq_true hout
  have hlater := Run.single (f := step) (s := s) (a := .recordFailure .connectionReset) rfl
  refine ⟨h, _, s, _, c, hrun, hc, hout, hlater, rfl, c, hc, unavailable_never_written hrun
    (fun e he hhasty => ?_) hc hout hreply hlater (List.mem_append_right _ mem_cons_self) hc⟩
  have hinput := List.mem_map_of_mem (f := Event.input) he
  rw [hinputs] at hinput
  obtain ⟨hact | hact, -⟩ := hhasty <;> simp [hact] at hinput

/-- Two calls: the wait of the second ends while the writer is busy with the first frame, that
call returns `Unavailable`, and its frame is written next. -/
theorem unavailable_then_written :
    ∃ h t c, Run step { maxControlPayloadBytes := 8 } h t ∧ t.calls[1]? = some c ∧
      c.bulk = false ∧ c.stage ≠ .refused ∧ c.place = .onWire ∧
      c.outcome? = some (.unavailable 100 .safeToRetryWithSameKey 2, some .writeTimeout) := by
  obtain ⟨h, t, hrun, -, hcheck⟩ := exists_run_of_runCheck (show runCheck step
    { maxControlPayloadBytes := 8 }
    [.call (sampleContract 1) (.controlRpcRequest [7]) 5, .ofCall 0 .register, .ofCall 0 .send,
      .call (sampleContract 2) (.controlRpcRequest [8]) 5, .ofCall 1 .register, .ofCall 1 .send,
      .poll, .ofCall 0 .take, .ofCall 0 .start, .ofCall 0 .handOver, .ofCall 1 .writeTimeout,
      .ofCall 0 (.finish (.ok ())), .poll, .ofCall 1 .take, .ofCall 1 .start, .ofCall 1 .handOver]
    (fun _ t => t.calls[1]?.any fun c => c.bulk = false ∧ c.stage ≠ .refused ∧ c.place = .onWire ∧
      c.outcome? = some (.unavailable 100 .safeToRetryWithSameKey 2, some .writeTimeout)) =
    true by decide +kernel)
  obtain ⟨c, hc, hall⟩ := (Option.any_eq_true _ _).mp hcheck
  exact ⟨h, t, c, hrun, hc, of_decide_eq_true hall⟩

end Session

end Nlos.Net
