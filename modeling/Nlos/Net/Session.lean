import Nlos.Capability.Model
import Nlos.Lib.Run

/-!
# Multiplexed sessions

The outbound side of one session: callers put request frames into two queues, one writer task drains
them and reports through a flag and a one-shot signal, and callers classify what they saw. Frames
that carry no request (credits, chunks, responses) only keep the writer busy and are left out.
-/

namespace Nlos.Net

open Lib Capability

inductive WriteProgressPhase where
  | beforeFirstPayloadByte
  | afterFirstPayloadByte
deriving DecidableEq

inductive SocketFailureKind where
  | singleHostProfileDisabled
  | endpointUnresolved
  | connectRefusedOrUnreachable
  | connectTimeout
  | tlsHandshakeRejected
  | peerFenceHandshakeRejected
  | writeTimeout
  | readTimeout
  | connectionReset
  | unexpectedEofOrTlsTruncation
  | transportIoOther (errorKind : ℕ)
deriving DecidableEq

inductive RemoteRetryDirective where
  | safeToRetryWithSameKey
  | reconcileBeforeRetry
  | doNotRetryBudgetExhausted
deriving DecidableEq

structure RemoteCallContract where
  callId : Word 16
  idempotencyKey : IdempotencyKey
  (deadlineTick maxRetries attemptNumber : ℕ)
  sideEffecting : Bool
deriving DecidableEq

inductive CallValue where
  | rpcResponsePayload (payload : List UInt8)
  | bulkTransferReceipt (streamId verifiedBytes totalChunks : ℕ) (verifiedSha256 : Digest)
deriving DecidableEq

inductive RemoteCallOutcome where
  | succeeded (value : CallValue) (observedEpoch : ℕ) (idempotencyReplayed : Bool)
  | unavailable (deadlineTick : ℕ) (retryDirective : RemoteRetryDirective)
      (idempotencyKey : IdempotencyKey)
  | deadlineExceededUncertain (deadlineTick elapsedTicks : ℕ) (sideEffecting : Bool)
      (retryDirective : RemoteRetryDirective) (idempotencyKey : IdempotencyKey)
deriving DecidableEq

namespace RemoteCallContract

variable (contract : RemoteCallContract)

def retryWithinBudget : RemoteRetryDirective :=
  if contract.attemptNumber < contract.maxRetries then .safeToRetryWithSameKey
  else .doNotRetryBudgetExhausted

def classifyPreDispatchUnavailable : RemoteCallOutcome :=
  .unavailable contract.deadlineTick contract.retryWithinBudget contract.idempotencyKey

def classifyInflightTimeout (elapsedTicks : ℕ) : RemoteCallOutcome :=
  .deadlineExceededUncertain contract.deadlineTick elapsedTicks contract.sideEffecting
    (if contract.sideEffecting then .reconcileBeforeRetry else contract.retryWithinBudget)
    contract.idempotencyKey

def classifyTransportFailure (phase : WriteProgressPhase) (elapsedTicks : ℕ) : RemoteCallOutcome :=
  match phase with
  | .beforeFirstPayloadByte => contract.classifyPreDispatchUnavailable
  | .afterFirstPayloadByte => contract.classifyInflightTimeout elapsedTicks

end RemoteCallContract

inductive RequestBody where
  | controlRpcRequest (payload : List UInt8)
  | bulkStreamOpen (totalBytes : ℕ)
deriving DecidableEq

/-- Where the request frame of a call is; `onWire` once a byte of it entered the stream. -/
inductive Place where
  | unsent
  | queued
  | taken
  | writing
  | onWire
  | dropped
deriving DecidableEq

/-- A one-shot channel, as its receiver sees it. -/
inductive Signal (α : Type) where
  | pending
  | sent (a : α)
  | dropped
deriving DecidableEq

structure RpcResponse where
  observedEpoch : ℕ
  (idempotencyReplayed preExecutionUnavailable : Bool)
  payload : List UInt8
deriving DecidableEq

/-- Where a call stands; `refused` is a return on a `PreExecutionUnavailable` response, and
`cancelled` a future that was dropped. -/
inductive CallStage where
  | checked
  | registered
  | queued
  | written
  | succeeded (value : CallValue) (observedEpoch : ℕ) (idempotencyReplayed : Bool)
  | failed (phase : WriteProgressPhase) (elapsedTicks : ℕ) (kind : Option SocketFailureKind)
  | refused
  | cancelled
deriving DecidableEq

/-- A call with its request frame, the signals it shares with the writer and the reader, and the
position of the frame in the order of sending. -/
structure SessionCall where
  contract : RemoteCallContract
  request : RequestBody
  elapsedTicksOnTimeout : ℕ
  place : Place := .unsent
  ticket : ℕ := 0
  writeStarted : Bool := false
  writeDone : Signal (Except (WriteProgressPhase × SocketFailureKind) Unit) := .pending
  response : Signal (Except SocketFailureKind RpcResponse) := .pending
  stage : CallStage := .checked
deriving DecidableEq

namespace SessionCall

variable (c : SessionCall)

def bulk : Bool :=
  match c.request with
  | .controlRpcRequest _ => false
  | .bulkStreamOpen _ => true

def outcome? : Option (RemoteCallOutcome × Option SocketFailureKind) :=
  match c.stage with
  | .succeeded value observedEpoch replayed => some (.succeeded value observedEpoch replayed, none)
  | .failed phase elapsed kind => some (c.contract.classifyTransportFailure phase elapsed, kind)
  | .refused => some (c.contract.classifyPreDispatchUnavailable, none)
  | _ => none

/-- The phase a caller reads off the flag of the writer. -/
def observedPhase : WriteProgressPhase :=
  if c.writeStarted then .afterFirstPayloadByte else .beforeFirstPayloadByte

def fail (phase : WriteProgressPhase) (kind : SocketFailureKind) : SessionCall :=
  { c with stage := .failed phase c.elapsedTicksOnTimeout (some kind) }

/-- The writer prefers control frames, and frames of one queue in the order of sending. -/
def precedes (d : SessionCall) : Bool :=
  if c.bulk = d.bulk then c.ticket ≤ d.ticket else d.bulk

/-- What the caller does with the report of the writer. -/
def writeResult : Option SessionCall :=
  match c.writeDone with
  | .pending => none
  | .dropped => some (c.fail c.observedPhase .connectionReset)
  | .sent (.error (phase, kind)) => some (c.fail phase kind)
  | .sent (.ok ()) => some { c with stage := .written }

def responseResult (terminalFailure : Option SocketFailureKind) : Option SessionCall :=
  match c.response with
  | .pending => none
  | .sent (.ok r) =>
    if r.preExecutionUnavailable then some { c with stage := .refused }
    else
      let value := .rpcResponsePayload r.payload
      some { c with stage := .succeeded value r.observedEpoch r.idempotencyReplayed }
  | .sent (.error kind) => some (c.fail .afterFirstPayloadByte kind)
  | .dropped =>
    some (c.fail .afterFirstPayloadByte (terminalFailure.getD .unexpectedEofOrTlsTruncation))

/-- How the write of the frame ends; an error before the first byte is reported only while nothing
was written. -/
def finish (result : Except (WriteProgressPhase × SocketFailureKind) Unit) : Option SessionCall :=
  match c.place, result with
  | .onWire, .ok () => some { c with writeDone := .sent (.ok ()) }
  | .onWire, .error (.afterFirstPayloadByte, kind) =>
    some { c with writeDone := .sent (.error (.afterFirstPayloadByte, kind)) }
  | .writing, .error e => some { c with place := .dropped, writeDone := .sent (.error e) }
  | _, _ => none

end SessionCall

inductive Writer where
  | idle
  | polled
  | busy (i : ℕ)
  | failed
  | stopped
deriving DecidableEq

structure Session where
  maxControlPayloadBytes : ℕ
  calls : List SessionCall := []
  sends : ℕ := 0
  writer : Writer := .idle
  terminalFailure : Option SocketFailureKind := none
  shutdown : Bool := false

inductive CallAct where
  | register
  | send
  | writeTimeout
  | writeResult
  | responseTimeout
  | responseResult
  | transferTimeout
  | transferEnd (result : Except SocketFailureKind (CallValue × ℕ × Bool))
  | cancel
  | take
  | start
  | handOver
  | finish (result : Except (WriteProgressPhase × SocketFailureKind) Unit)
  | deliver (response : RpcResponse)

inductive SessionAct where
  | call (contract : RemoteCallContract) (request : RequestBody) (elapsedTicks : ℕ)
  | ofCall (i : ℕ) (a : CallAct)
  | poll
  | failOther
  | stop
  | recordFailure (kind : SocketFailureKind)
  | sendShutdown
  | abortResponses (kind : SocketFailureKind)

namespace Session

variable (s : Session)

/-- The checks of `call_rpc` before it registers; `send_bulk_chunks` has none. -/
def callStage : RequestBody → CallStage
  | .bulkStreamOpen _ => .checked
  | .controlRpcRequest payload =>
    if s.maxControlPayloadBytes < payload.length then .failed .beforeFirstPayloadByte 0 none
    else match s.terminalFailure with
      | some priorFail => .failed .beforeFirstPayloadByte 0 (some priorFail)
      | none => .checked

/-- `call_rpc` or `send_bulk_chunks` up to its registration. -/
def call (contract : RemoteCallContract) (request : RequestBody) (elapsedTicks : ℕ) : Session :=
  { s with calls := s.calls ++ [{
      contract := contract
      request := request
      elapsedTicksOnTimeout := elapsedTicks
      stage := s.callStage request }] }

/-- One step of a call or of the writer with its frame. Timeouts may fire whenever their wait is
open; a send fails once the writer dropped the receiving ends of the queues; the chunks of a
transfer whose opening frame was written end in a receipt or a failure. -/
def callAct (i : ℕ) (c : SessionCall) : CallAct → Option SessionCall
  | .register => if c.stage = .checked then some { c with stage := .registered } else none
  | .send =>
    if c.stage = .registered then
      if s.writer = .stopped then
        some { c with stage := .failed .beforeFirstPayloadByte 0 (some .connectionReset) }
      else some { c with stage := .queued, place := .queued, ticket := s.sends }
    else none
  | .writeTimeout =>
    if c.bulk = false ∧ c.stage = .queued then some (c.fail c.observedPhase .writeTimeout)
    else none
  | .writeResult => if c.stage = .queued then c.writeResult else none
  | .responseTimeout =>
    if c.bulk = false ∧ c.stage = .written then some (c.fail .afterFirstPayloadByte .readTimeout)
    else none
  | .responseResult =>
    if c.bulk = false ∧ c.stage = .written then c.responseResult s.terminalFailure else none
  | .transferTimeout =>
    if c.bulk ∧ c.stage = .written then some (c.fail .afterFirstPayloadByte .readTimeout)
    else if c.bulk ∧ (c.stage = .registered ∨ c.stage = .queued) then
      some (c.fail c.observedPhase .readTimeout)
    else none
  | .transferEnd result =>
    if c.bulk ∧ c.stage = .written then
      match result with
      | .ok (receipt, observedEpoch, replayed) =>
        some { c with stage := .succeeded receipt observedEpoch replayed }
      | .error kind => some (c.fail .afterFirstPayloadByte kind)
    else none
  | .cancel =>
    if c.bulk ∧ c.stage = .registered ∨ c.stage = .queued ∨ c.stage = .written then
      some { c with stage := .cancelled }
    else none
  | .take =>
    if s.writer = .polled ∧ c.place = .queued ∧
        ∀ d ∈ s.calls, d.place = .queued → c.precedes d then
      some { c with place := .taken }
    else none
  | .start =>
    if s.writer = .busy i ∧ c.place = .taken then
      some { c with place := .writing, writeStarted := true }
    else none
  | .handOver =>
    if s.writer = .busy i ∧ c.place = .writing then some { c with place := .onWire } else none
  | .finish result => if s.writer = .busy i then c.finish result else none
  | .deliver response =>
    if c.response = .pending ∧ c.stage ≠ .checked then
      some { c with response := .sent (.ok response) }
    else none

/-- What such a step does besides. -/
def afterCallAct (i : ℕ) : CallAct → Session
  | .send => { s with sends := s.sends + 1 }
  | .take => { s with writer := .busy i }
  | .finish (.ok ()) => { s with writer := .idle }
  | .finish (.error _) => { s with writer := .failed }
  | _ => s

def dropQueued (c : SessionCall) : SessionCall :=
  if c.place = .queued then { c with place := .dropped, writeDone := .dropped } else c

def abortResponse (kind : SocketFailureKind) (c : SessionCall) : SessionCall :=
  if c.response = .pending ∧ c.stage ≠ .checked then { c with response := .sent (.error kind) }
  else c

/-- One step. The writer looks at the shutdown flag before it takes a frame; `failOther` is a
failed write of a frame without request. The parts of `record_failure_and_abort_all` are steps of
their own, possible at any time because `close` is. -/
def act : SessionAct → Option Session
  | .call contract request elapsedTicks => some (s.call contract request elapsedTicks)
  | .ofCall i a => do
    let c ← s.calls[i]?
    let c' ← s.callAct i c a
    some { s.afterCallAct i a with calls := s.calls.set i c' }
  | .poll =>
    if (s.writer = .idle ∨ s.writer = .polled) ∧ s.shutdown = false then
      some { s with writer := .polled }
    else none
  | .failOther => if s.writer = .polled then some { s with writer := .failed } else none
  | .stop =>
    if s.writer = .failed ∨ (s.writer = .idle ∨ s.writer = .polled) ∧ s.shutdown then
      some { s with writer := .stopped, calls := s.calls.map dropQueued }
    else none
  | .recordFailure kind => some { s with terminalFailure := s.terminalFailure <|> some kind }
  | .sendShutdown => some { s with shutdown := true }
  | .abortResponses kind => some { s with calls := s.calls.map (abortResponse kind) }

def step (s : Session) (a : SessionAct) : Except Unit (Session × Unit) :=
  (·, ()) <$> orRefuse (s.act a) ()

end Session

end Nlos.Net
