import Nlos.Fanout.Model
import Nlos.Lib.Run
import Nlos.Lib.Table

/-!
# The fanout quota ledger

A group admits work by reserving amounts on seven quota axes. The ledger is written over its counter
arithmetic: the code saturates, and the checked arithmetic stops where a result does not fit its
counter.
-/

namespace Nlos.Fanout

open Lib Capability

abbrev ReservationId := Word 16

inductive FanoutAxis where
  | totalChildren
  | activeAgents
  | messageCount
  | messageBytes
  | contextReadBytes
  | writeBytes
  | externalEffects
deriving DecidableEq

namespace FanoutAxis

/-- The axes in the order in which they are checked and reported. -/
def all : List FanoutAxis :=
  [totalChildren, activeAgents, messageCount, messageBytes, contextReadBytes, writeBytes,
    externalEffects]

lemma mem_all (a : FanoutAxis) : a ∈ all := by cases a <;> decide

instance : Fintype FanoutAxis := ⟨⟨all, by decide⟩, mem_all⟩

def width : FanoutAxis → ℕ
  | totalChildren | activeAgents | externalEffects => 4
  | _ => 8

end FanoutAxis

abbrev Amounts := (a : FanoutAxis) → Word a.width

inductive FanoutGroupLifecycle where
  | opened
  | sealed
  | cancelled
  | poisoned
deriving DecidableEq

structure FanoutQuotaContract where
  maxGroupDepth : Word 4
  maximum : Amounts
  maxBackpressureQueueLen : ℕ
  baseRetryAfterMs : U64

structure FanoutReservationRequest where
  reservationId : ReservationId
  idempotencyKey : IdempotencyKey
  requestedDepth : Word 4
  amounts : Amounts
deriving DecidableEq

/-- Usage is reported on every axis but the concurrently active agents. -/
structure FanoutActualUsage where
  amounts : Amounts
  activeAgents : amounts .activeAgents = 0

def FanoutActualUsage.default : FanoutActualUsage := ⟨fun a => ⟨0, by positivity⟩, rfl⟩

inductive FanoutHardRefusalReason where
  | maxGroupDepthExceeded (requestedDepth maxGroupDepth : Word 4)
  | groupSealed
  | groupCancelled
  | groupPoisoned
  | backpressureQueueFull (maxBackpressureQueueLen : ℕ)

inductive FanoutAdmissionDecision where
  | admitted (reservationId : ReservationId) (remainingHeadroom : Amounts)
  | waitingResourceBackpressure (waitTicketId : U64) (saturatedAxes : List FanoutAxis)
      (retryAfterHintMs : Option U64)
  | hardRefused (reason : FanoutHardRefusalReason)

structure FanoutSettlementReport where
  updatedHeadroom : Amounts
  unblockedReservations : List (U64 × ReservationId)

inductive LedgerError where
  | conflictingReservationRequest (reservationId : ReservationId)
  | unknownActiveReservation (reservationId : ReservationId)
  | actualUsageExceedsReservation (reservationId : ReservationId) (axis : FanoutAxis)

/-- The counter named by `reserved` on the axis of active agents is `active_agents`; no agents are
ever committed. -/
structure FanoutUsageLedger where
  contract : FanoutQuotaContract
  lifecycle : FanoutGroupLifecycle
  (committed reserved : Amounts)
  activeReservations : Table ReservationId FanoutReservationRequest
  waitingQueue : List (U64 × FanoutReservationRequest)
  nextWaitTicketSeq : U64

structure Arithmetic (m : Type → Type) where
  (add sub : Amounts → Amounts → m Amounts)

def Amounts.saturatingAdd (u v : Amounts) : Amounts := fun a => (u a).saturatingAdd (v a)

def Amounts.saturatingSub (u v : Amounts) : Amounts := fun a => (u a).saturatingSub (v a)

def saturating : Arithmetic Id where
  add u v := pure (u.saturatingAdd v)
  sub u v := pure (u.saturatingSub v)

def checked : Arithmetic Option where
  add u v := if ∀ a, (u a).val + (v a).val < 256 ^ a.width then some (u.saturatingAdd v) else none
  sub u v := if ∀ a, v a ≤ u a then some (u.saturatingSub v) else none

namespace FanoutUsageLedger

def new (contract : FanoutQuotaContract) : FanoutUsageLedger where
  contract := contract
  lifecycle := .opened
  committed := FanoutActualUsage.default.amounts
  reserved := FanoutActualUsage.default.amounts
  activeReservations := ∅
  waitingQueue := []
  nextWaitTicketSeq := 0

def setLifecycle (s : FanoutUsageLedger) (lifecycle : FanoutGroupLifecycle) :
    FanoutUsageLedger × ℕ :=
  if lifecycle = .cancelled ∨ lifecycle = .poisoned then
    ({ s with lifecycle, waitingQueue := [] }, s.waitingQueue.length)
  else ({ s with lifecycle }, 0)

def computeRetryHintMs (s : FanoutUsageLedger) : Option U64 :=
  if s.contract.baseRetryAfterMs = 0 then none
  else some (saturated 8 (s.contract.baseRetryAfterMs.val * max s.waitingQueue.length 1))

variable {m : Type → Type} [Monad m] (ar : Arithmetic m) (s : FanoutUsageLedger)

def headroom : m Amounts := do
  let used ← ar.add s.committed s.reserved
  ar.sub s.contract.maximum used

def saturatedAxesFor (request : FanoutReservationRequest) : m (List FanoutAxis) := do
  let headroom ← s.headroom ar
  pure (FanoutAxis.all.filter fun a => headroom a < request.amounts a)

def applyReservation (request : FanoutReservationRequest) : m FanoutUsageLedger := do
  let reserved ← ar.add s.reserved request.amounts
  pure { s with
    reserved
    activeReservations := s.activeReservations.insert request.reservationId request }

/-- The ledger while its queue is drained, the waiters that stay and the ones promoted. -/
structure Draining where
  ledger : FanoutUsageLedger
  remaining : List (U64 × FanoutReservationRequest)
  promoted : List (U64 × ReservationId)

def promote (d : Draining) (waiter : U64 × FanoutReservationRequest) : m Draining := do
  let axes ← d.ledger.saturatedAxesFor ar waiter.2
  if axes = [] then
    let ledger ← d.ledger.applyReservation ar waiter.2
    pure { d with ledger, promoted := d.promoted ++ [(waiter.1, waiter.2.reservationId)] }
  else pure { d with remaining := d.remaining ++ [waiter] }

def drainAdmissibleWaiters : m (FanoutUsageLedger × List (U64 × ReservationId)) :=
  if s.lifecycle ≠ .opened then pure (s, [])
  else do
    let d ← s.waitingQueue.foldlM (promote ar) ⟨s, [], []⟩
    pure ({ d.ledger with waitingQueue := d.remaining }, d.promoted)

def settlementReport : m (FanoutUsageLedger × FanoutSettlementReport) := do
  let (drained, unblocked) ← s.drainAdmissibleWaiters ar
  let updatedHeadroom ← drained.headroom ar
  pure (drained, ⟨updatedHeadroom, unblocked⟩)

def lifecycleRefusal : FanoutGroupLifecycle → Option FanoutHardRefusalReason
  | .opened => none
  | .sealed => some .groupSealed
  | .cancelled => some .groupCancelled
  | .poisoned => some .groupPoisoned

def admitNew (request : FanoutReservationRequest) :
    m (FanoutUsageLedger × FanoutAdmissionDecision) :=
  match lifecycleRefusal s.lifecycle with
  | some reason => pure (s, .hardRefused reason)
  | none =>
    if s.contract.maxGroupDepth < request.requestedDepth then
      pure (s, .hardRefused
        (.maxGroupDepthExceeded request.requestedDepth s.contract.maxGroupDepth))
    else do
      let saturatedAxes ← s.saturatedAxesFor ar request
      if saturatedAxes = [] ∧ s.waitingQueue = [] then
        let t ← s.applyReservation ar request
        let headroom ← t.headroom ar
        pure (t, .admitted request.reservationId headroom)
      else if s.contract.maxBackpressureQueueLen ≤ s.waitingQueue.length then
        pure (s, .hardRefused (.backpressureQueueFull s.contract.maxBackpressureQueueLen))
      else
        -- Behind earlier waiters a request that would fit is reported under active agents.
        let reportedAxes := if saturatedAxes = [] then [.activeAgents] else saturatedAxes
        let waitTicketId := s.nextWaitTicketSeq.saturatingAdd 1
        let t := { s with
          nextWaitTicketSeq := waitTicketId
          waitingQueue := s.waitingQueue ++ [(waitTicketId, request)] }
        pure (t, .waitingResourceBackpressure waitTicketId reportedAxes t.computeRetryHintMs)

def requestAdmission (request : FanoutReservationRequest) :
    m (Except LedgerError (FanoutUsageLedger × FanoutAdmissionDecision)) :=
  match s.activeReservations[request.reservationId]? with
  | some existing =>
    if existing = request then do
      let headroom ← s.headroom ar
      pure (.ok (s, .admitted request.reservationId headroom))
    else pure (.error (.conflictingReservationRequest request.reservationId))
  | none =>
    match s.waitingQueue.find? fun waiter => waiter.2.reservationId = request.reservationId with
    | some (ticket, queued) =>
      if queued = request then do
        let saturatedAxes ← s.saturatedAxesFor ar request
        pure (.ok (s, .waitingResourceBackpressure ticket saturatedAxes s.computeRetryHintMs))
      else pure (.error (.conflictingReservationRequest request.reservationId))
    | none => .ok <$> s.admitNew ar request

def settleReservation (reservationId : ReservationId) (actual : FanoutActualUsage) :
    m (Except LedgerError (FanoutUsageLedger × FanoutSettlementReport)) :=
  match s.activeReservations[reservationId]? with
  | none => pure (.error (.unknownActiveReservation reservationId))
  | some reservation =>
    match FanoutAxis.all.find? fun a => reservation.amounts a < actual.amounts a with
    | some axis => pure (.error (.actualUsageExceedsReservation reservationId axis))
    | none => do
      let reserved ← ar.sub s.reserved reservation.amounts
      let committed ← ar.add s.committed actual.amounts
      let settled := { s with
        activeReservations := s.activeReservations.erase reservationId
        reserved
        committed }
      .ok <$> settled.settlementReport ar

def cancelReservation (reservationId : ReservationId) :
    m (Except LedgerError (FanoutUsageLedger × FanoutSettlementReport)) :=
  s.settleReservation ar reservationId .default

def extendQuotaContract (updatedContract : FanoutQuotaContract) :
    m (FanoutUsageLedger × FanoutSettlementReport) :=
  { s with contract := updatedContract }.settlementReport ar

end FanoutUsageLedger

inductive LedgerCall where
  | requestAdmission (request : FanoutReservationRequest)
  | settleReservation (reservationId : ReservationId) (actual : FanoutActualUsage)
  | cancelReservation (reservationId : ReservationId)
  | setLifecycle (lifecycle : FanoutGroupLifecycle)
  | extendQuotaContract (updatedContract : FanoutQuotaContract)

inductive LedgerAnswer where
  | admission (decision : FanoutAdmissionDecision)
  | settlement (report : FanoutSettlementReport)
  | dropped (waiters : ℕ)

namespace FanoutUsageLedger

def call {m : Type → Type} [Monad m] (ar : Arithmetic m) (s : FanoutUsageLedger) :
    LedgerCall → m (Except LedgerError (FanoutUsageLedger × LedgerAnswer))
  | .requestAdmission request =>
    (Prod.map id .admission <$> ·) <$> s.requestAdmission ar request
  | .settleReservation reservationId actual =>
    (Prod.map id .settlement <$> ·) <$> s.settleReservation ar reservationId actual
  | .cancelReservation reservationId =>
    (Prod.map id .settlement <$> ·) <$> s.cancelReservation ar reservationId
  | .setLifecycle lifecycle => pure (.ok (Prod.map id .dropped (s.setLifecycle lifecycle)))
  | .extendQuotaContract updatedContract =>
    (fun r => .ok (Prod.map id .settlement r)) <$> s.extendQuotaContract ar updatedContract

/-- A call of the code; a refused call leaves the ledger as it was. -/
def step (s : FanoutUsageLedger) (call : LedgerCall) :
    Except Empty (FanoutUsageLedger × Except LedgerError LedgerAnswer) :=
  .ok (commit s (s.call saturating call).run)

end FanoutUsageLedger

end Nlos.Fanout
