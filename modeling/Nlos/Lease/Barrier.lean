import Nlos.Lease.Cell

/-!
# Fence barrier acknowledgments

A gateway acknowledges that it has fenced a lease and reports the highest use it has seen. The
acknowledgment carries a digest of its fields, mixed byte by byte.
-/

namespace Nlos.Lease

open Lib

structure FenceScope where
  cell : CellIdentity
deriving DecidableEq

namespace Mixing

def rotateLeft (b : UInt8) (n : UInt8) : UInt8 := b <<< n ||| b >>> (8 - n)

def rotateRight (b : UInt8) (n : UInt8) : UInt8 := b >>> n ||| b <<< (8 - n)

/-- The little-endian bytes of a 64-bit number. -/
def leBytes (n : ℕ) : List UInt8 := (beBytes 8 n).reverse

def byteAt (bytes : List UInt8) (i : ℕ) : UInt8 := bytes.getD i 0

end Mixing

open Mixing

structure FenceBarrierAck where
  leaseId : Word 16
  fenceScope : FenceScope
  (epoch fencingToken : ℕ)
  gatewayId : Word 16
  observedHighWater : ℕ
  ackDigest : Word 32
deriving DecidableEq

def fenceBarrierDomainTag : List UInt8 := "NLOS-FENCE-ACK01".toUTF8.toList

namespace FenceBarrierAck

/-- The second pass: each byte takes in the one before it, as already mixed. -/
def mixRounds (epochBytes tokenBytes hwBytes : List UInt8) : ℕ → UInt8 → List UInt8 → List UInt8
  | _, _, [] => []
  | round, prev, b :: rest =>
    let mixed := (b + rotateLeft prev 1 + byteAt epochBytes (round % 8) +
      byteAt tokenBytes ((round + 2) % 8) + byteAt hwBytes ((round + 4) % 8)) ^^^
      (UInt8.ofNat round * 0x9e)
    mixed :: mixRounds epochBytes tokenBytes hwBytes (round + 1) mixed rest

def computeDigest (leaseId : Word 16) (fenceScope : FenceScope) (epoch fencingToken : ℕ)
    (gatewayId : Word 16) (observedHighWater : ℕ) : List UInt8 :=
  let tag := byteAt fenceBarrierDomainTag
  let lease := byteAt leaseId.bytes
  let scope := byteAt fenceScope.cell.bytes
  let gateway := byteAt gatewayId.bytes
  let epochBytes := leBytes epoch
  let tokenBytes := leBytes fencingToken
  let hwBytes := leBytes observedHighWater
  let low := (List.range 16).map fun i =>
    tag i ^^^ lease i ^^^ rotateLeft (scope i) 3 ^^^ rotateRight (gateway i) 2
  let high := (List.range 16).map fun i =>
    tag (15 - i) ^^^ rotateLeft (lease i) 5 ^^^ scope (15 - i) ^^^ gateway i ^^^
      byteAt epochBytes (i % 8) ^^^ byteAt tokenBytes ((i + 3) % 8) ^^^
      byteAt hwBytes ((i + 5) % 8)
  mixRounds epochBytes tokenBytes hwBytes 0 (byteAt high 15) (low ++ high)

def verifyDigest (ack : FenceBarrierAck) : Bool :=
  ack.gatewayId ≠ 0 ∧ ack.ackDigest.bytes = computeDigest ack.leaseId ack.fenceScope ack.epoch
    ack.fencingToken ack.gatewayId ack.observedHighWater

def ofFields (leaseId : Word 16) (fenceScope : FenceScope) (epoch fencingToken : ℕ)
    (gatewayId : Word 16) (observedHighWater : ℕ) : FenceBarrierAck where
  leaseId := leaseId
  fenceScope := fenceScope
  epoch := epoch
  fencingToken := fencingToken
  gatewayId := gatewayId
  observedHighWater := observedHighWater
  ackDigest := Word.ofBytes 32
    (computeDigest leaseId fenceScope epoch fencingToken gatewayId observedHighWater)

/-- The checks of an acknowledgment against the lease it is presented for, in order. -/
def checkAxes (ack : FenceBarrierAck) (leaseId : Word 16) (fenceScope : FenceScope)
    (epoch fencingToken expectedHighWater : ℕ)
    (leaseIdReason epochReason highWaterReason : String) : Except String Unit := do
  refuseIf (ack.leaseId ≠ leaseId) leaseIdReason
  refuseIf (ack.fenceScope ≠ fenceScope) "FenceBarrierAck fence_scope mismatch"
  refuseIf (ack.epoch ≠ epoch) epochReason
  refuseIf (ack.fencingToken ≠ fencingToken) "FenceBarrierAck fencing_token mismatch"
  refuseIf (ack.observedHighWater ≠ expectedHighWater) highWaterReason
  refuseIf (ack.verifyDigest = false) "FenceBarrierAck digest verification failed"

end FenceBarrierAck

end Nlos.Lease
