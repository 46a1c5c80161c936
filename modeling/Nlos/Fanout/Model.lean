import Nlos.Capability.Model

/-!
# Fanout leaves

Leaves of a fanout, the errors of its operations and the messages that are hashed for it.
-/

namespace Nlos.Fanout

open Lib Capability

abbrev TaskGroupId := Word 16
abbrev TaskAttemptId := Word 16
abbrev AgentInstanceId := Word 16

inductive FanoutLeafId where
  | taskAttempt (id : TaskAttemptId)
  | agentInstance (id : AgentInstanceId)

namespace FanoutLeafId

def kindTag : FanoutLeafId → UInt8
  | taskAttempt _ => 0
  | agentInstance _ => 1

def id : FanoutLeafId → Word 16
  | taskAttempt id => id
  | agentInstance id => id

/-- Attempts come before agents, and each kind is ordered by its identifiers. -/
def rank (leafId : FanoutLeafId) : ℕ := leafId.kindTag.toNat * 256 ^ 16 + leafId.id.val

lemma rank_injective : Function.Injective rank := by
  intro l l' h
  have hl := l.id.isLt
  have hl' := l'.id.isLt
  cases l <;> cases l' <;> simp only [rank, kindTag, id] at h hl hl' ⊢ <;>
    simp [Fin.ext_iff] at h ⊢ <;> omega

instance : LinearOrder FanoutLeafId := LinearOrder.lift' rank rank_injective

end FanoutLeafId

structure FanoutLeafMember where
  leafId : FanoutLeafId
  controlDomainId : ControlDomainId
deriving DecidableEq

inductive FanoutError where
  | invalidConfiguration (reason : String)
  | zeroReducerDigest
  | duplicateSubgroup (subgroupId : TaskGroupId)
  | unknownSubgroup (subgroupId : TaskGroupId)
  | cycleDetected (subgroupId : TaskGroupId)
  | multipleParents (subgroupId : TaskGroupId)
  | disconnectedSubgroup (subgroupId : TaskGroupId)
  | branchingFactorExceeded (subgroupId : TaskGroupId) (attemptedDegree maxBranchingFactor : ℕ)
  | maxDepthExceeded (requestedDepth maxDepth : Word 4)
  | duplicateLeafMember (leafId : FanoutLeafId)
  | unknownLeafMember (leafId : FanoutLeafId)
  | leafNotYetReported (leafId : FanoutLeafId)
deriving DecidableEq

abbrev Result := Except FanoutError

/-- A `usize` as the word that is hashed for it. -/
def saturated (k n : ℕ) : Word k :=
  ⟨min n (256 ^ k - 1), by have : 0 < 256 ^ k := Nat.pow_pos (by decide); omega⟩

def message (domain : String) (parts : List (List UInt8)) : List UInt8 :=
  domain.toUTF8.toList ++ 0 :: parts.flatten

end Nlos.Fanout
